import Esptool.EspExports
import Esptool.SameImage
import Esptool.UniqueHandle

/-!
# The linker of the client library

`EspApi` loads the client library at run time and keeps the address of every
export of its table.  What the loader of the operating system answers is a
`Linker`; every call to it is filed, so that the books on module handles and
the origin of each address can be read off the log.
-/

namespace Esptool.Esp

open Process Interaction

def kEspClientDll : WString := Text.wide "espclient.dll"

inductive LinkerCall
  | loadLibraryEx (path : WString) (alteredSearchPath : Bool)
  | loadLibrary (path : WString)
  | getProcAddress (library : Handle) (name : String)
  | freeLibrary (library : Handle)
deriving DecidableEq, Repr

structure LinkerReply where
  handle : Handle := 0
  lastError : ℕ := 0
deriving DecidableEq, Repr

abbrev LinkerEvent := Interaction.Event Unit LinkerCall LinkerReply

structure Linker where
  currentImagePath : WString
  respond : Oracle Unit LinkerCall LinkerReply

structure EspApi where
  library : UniqueCloser nonEmptyCloser := .nothing
  loadedPath : WString := []
  lastError : String := ""
  exports : List ExportDescriptor := buildCatalog
  log : List LinkerEvent := []

def separators : List UInt16 := [kBackslash, 0x2F]

/-- The path up to its last separator, with the separator. -/
def executableDirectory (linker : Linker) : WString :=
  (linker.currentImagePath.reverse.dropWhile
    fun unit => !separators.contains unit).reverse

/-- An explicit path is the only candidate. -/
def candidates (linker : Linker) (explicitPath : WString) : List WString :=
  if explicitPath ≠ [] then [explicitPath]
  else if executableDirectory linker ≠ [] then
    [executableDirectory linker ++ kEspClientDll, kEspClientDll]
  else [kEspClientDll]

namespace EspApi

variable (linker : Linker)

def call (api : EspApi) (request : LinkerCall) : LinkerReply × EspApi :=
  let reply := linker.respond api.log request
  (reply, { api with log := api.log ++ [⟨(), request, reply⟩] })

/-- `module_.reset`: the owner closes with `FreeLibrary`. -/
def resetLibrary (handle : Handle) (api : EspApi) : EspApi :=
  let reset := api.library.reset handle
  let closed := reset.2.foldl (fun api event =>
    match event with
    | .closes old => (api.call linker (.freeLibrary old)).2
    | _ => api) api
  { closed with library := reset.1 }

def unload (api : EspApi) : EspApi :=
  let closed := api.resetLibrary linker 0
  { closed with
    loadedPath := []
    exports := closed.exports.map fun descriptor =>
      { descriptor with address := 0 } }

def hasDirectory (path : WString) : Bool :=
  path.any separators.contains

/-- One candidate: `LoadLibraryExW`, and `LoadLibraryW` when it fails. -/
def loadCandidate (path : WString) (api : EspApi) : LinkerReply × EspApi :=
  let first := api.call linker (.loadLibraryEx path (hasDirectory path))
  if first.1.handle ≠ 0 then first
  else first.2.call linker (.loadLibrary path)

/-- The loop over the candidates, with the last error code. -/
def loadFirst : List WString → ℕ → EspApi → ℕ × EspApi
  | [], loadError, api => (loadError, api)
  | path :: rest, loadError, api =>
      let loaded := api.loadCandidate linker path
      if loaded.1.handle ≠ 0 then
        (loadError, { loaded.2.resetLibrary linker loaded.1.handle with
          loadedPath := path })
      else loadFirst rest loaded.1.lastError loaded.2

/-- The address of one export, from the library that is loaded. -/
def resolveOne (api : EspApi) (descriptor : ExportDescriptor) :
    ExportDescriptor × EspApi :=
  let found := api.call linker
    (.getProcAddress api.library.handle descriptor.name)
  ({ descriptor with address := found.1.handle }, found.2)

def resolveExports : List ExportDescriptor → EspApi →
    List ExportDescriptor × EspApi
  | [], api => ([], api)
  | descriptor :: rest, api =>
      let found := api.resolveOne linker descriptor
      let others := resolveExports rest found.2
      (found.1 :: others.1, others.2)

def kErrorModNotFound : ℕ := 126

def load (explicitPath : WString) (api : EspApi) : Bool × EspApi :=
  let cleared := { api.unload linker with lastError := "" }
  let loaded := loadFirst linker (candidates linker explicitPath)
    kErrorModNotFound cleared
  if loaded.2.library.held = [] then
    let attempted :=
      if explicitPath = [] then kEspClientDll else explicitPath
    (false, { loaded.2 with
      lastError := "could not load " ++
        String.ofList (Text.toUtf8 attempted) ++
        " (error " ++ toString loaded.1 ++ ")" })
  else
    let resolved := resolveExports linker loaded.2.exports loaded.2
    let api := { resolved.2 with exports := resolved.1 }
    if resolved.1.all fun descriptor => descriptor.address == 0 then
      (false, { api with
        lastError :=
          "the loaded library exports none of the expected symbols" }.unload
        linker)
    else (true, api)

def resolvedCount (api : EspApi) : ℕ :=
  api.exports.countP fun descriptor => descriptor.address != 0

def missing (api : EspApi) : List String :=
  (api.exports.filter fun descriptor => descriptor.address == 0).map
    ExportDescriptor.name

def find (api : EspApi) (name : String) : Option ExportDescriptor :=
  api.exports.find? fun descriptor => descriptor.name == name

def resolve (api : EspApi) (name : String) : Handle :=
  match api.find name with
  | some descriptor => descriptor.address
  | none => 0

end EspApi

/-! ## The books on module handles -/

/-- A module handle is opened by a load that succeeds. -/
def libraries : Custody LinkerEvent Handle where
  opens e :=
    match e.call with
    | .loadLibraryEx .. | .loadLibrary _ =>
        if e.reply.handle ≠ 0 then some e.reply.handle else none
    | _ => none
  closes e :=
    match e.call with
    | .freeLibrary library => some library
    | _ => none

/-- The loads of a log: the path, and whether it was loaded. -/
def loads (log : List LinkerEvent) : List (WString × Bool) :=
  log.filterMap fun e =>
    match e.call with
    | .loadLibraryEx path _ => some (path, decide (e.reply.handle ≠ 0))
    | .loadLibrary path => some (path, decide (e.reply.handle ≠ 0))
    | _ => none

namespace EspApi

section

variable {linker : Linker} {api : EspApi}

/-- An empty owner adopts a library without closing one. -/
theorem resetLibrary_adopts (h : api.library = .nothing) {handle : Handle}
    (hhandle : handle ≠ 0) :
    api.resetLibrary linker handle =
      { api with library := .ofHandle handle } := by
  have husable : nonEmptyCloser.usable handle = true :=
    bne_iff_ne.mpr hhandle
  rw [resetLibrary, h, UniqueCloser.reset_nothing husable]
  rfl

/-- The call that `Unload` makes when a library is loaded. -/
def closing (linker : Linker) (api : EspApi) : List LinkerEvent :=
  api.library.held.map fun library =>
    ⟨(), .freeLibrary library,
      linker.respond api.log (.freeLibrary library)⟩

theorem resetLibrary_empty :
    api.resetLibrary linker 0 =
      { api with
        library := .nothing
        log := api.log ++ api.closing linker } := by
  have hreset : api.library.reset 0 =
      (.nothing, api.library.held.map .closes) :=
    api.library.reset_empty
  rw [resetLibrary, hreset, closing]
  unfold UniqueCloser.held
  split
  · rfl
  · simp only [List.map_nil, List.foldl_nil, List.append_nil]

theorem unload_eq :
    api.unload linker =
      { library := .nothing
        lastError := api.lastError
        exports := api.exports.map fun descriptor =>
          { descriptor with address := 0 }
        log := api.log ++ api.closing linker } := by
  rw [unload, resetLibrary_empty]

end

/-! ## The loop over the candidates -/

/-- The events of one candidate that was refused twice. -/
structure Refused (path : WString) (new : List LinkerEvent) : Prop where
  opens : new.filterMap libraries.opens = []
  closes : new.filterMap libraries.closes = []
  loads : loads new = [(path, false), (path, false)]

/-- The events of the candidate that was loaded, at the first attempt or at
the second. -/
structure Accepted (path : WString) (handle : Handle)
    (new : List LinkerEvent) : Prop where
  handle_ne : handle ≠ 0
  opens : new.filterMap libraries.opens = [handle]
  closes : new.filterMap libraries.closes = []
  loads : loads new = [(path, true)] ∨
    loads new = [(path, false), (path, true)]

/-- The events of the loop: candidates are refused up to the first one that
loads, and none is tried after it. -/
inductive Loading :
    List WString → List LinkerEvent → Option (WString × Handle) → Prop
  | exhausted : Loading [] [] none
  | accepted {path : WString} {rest : List WString} {handle : Handle}
      {new : List LinkerEvent} (h : Accepted path handle new) :
      Loading (path :: rest) new (some (path, handle))
  | refused {path : WString} {rest : List WString}
      {new more : List LinkerEvent} {found : Option (WString × Handle)}
      (h : Refused path new) (hmore : Loading rest more found) :
      Loading (path :: rest) (new ++ more) found

/-- The state of the linker after the loop. -/
def found (api : EspApi) (new : List LinkerEvent) :
    Option (WString × Handle) → EspApi
  | none => { api with log := api.log ++ new }
  | some (path, handle) =>
      { api with
        library := .ofHandle handle
        loadedPath := path
        log := api.log ++ new }

section

variable {linker : Linker} {api : EspApi}

theorem refused_twice {path : WString} {altered : Bool}
    {first second : LinkerReply} (hfirst : first.handle = 0)
    (hsecond : second.handle = 0) :
    Refused path [⟨(), .loadLibraryEx path altered, first⟩,
      ⟨(), .loadLibrary path, second⟩] := by
  constructor <;> simp [libraries, loads, hfirst, hsecond]

theorem accepted_first {path : WString} {altered : Bool}
    {first : LinkerReply} (hfirst : first.handle ≠ 0) :
    Accepted path first.handle
      [⟨(), .loadLibraryEx path altered, first⟩] := by
  constructor <;> simp [libraries, loads, hfirst]

theorem accepted_second {path : WString} {altered : Bool}
    {first second : LinkerReply} (hfirst : first.handle = 0)
    (hsecond : second.handle ≠ 0) :
    Accepted path second.handle [⟨(), .loadLibraryEx path altered, first⟩,
      ⟨(), .loadLibrary path, second⟩] := by
  constructor <;> simp [libraries, loads, hfirst, hsecond]

theorem loadCandidate_spec (linker : Linker) (api : EspApi)
    (path : WString) :
    ∃ new, (api.loadCandidate linker path).2 =
        { api with log := api.log ++ new } ∧
      if (api.loadCandidate linker path).1.handle = 0 then Refused path new
      else Accepted path (api.loadCandidate linker path).1.handle new := by
  by_cases hfirst :
      (api.call linker (.loadLibraryEx path (hasDirectory path))).1.handle = 0
  · have hcall : api.loadCandidate linker path =
        (api.call linker (.loadLibraryEx path (hasDirectory path))).2.call
          linker (.loadLibrary path) :=
      if_neg (not_not.mpr hfirst)
    rw [hcall]
    refine ⟨_, congrArg (fun log => { api with log := log })
      (List.append_assoc _ _ _), ?_⟩
    split
    · exact refused_twice hfirst ‹_›
    · exact accepted_second hfirst ‹_›
  · have hcall : api.loadCandidate linker path =
        api.call linker (.loadLibraryEx path (hasDirectory path)) :=
      if_pos hfirst
    rw [hcall]
    refine ⟨_, rfl, ?_⟩
    rw [if_neg hfirst]
    exact accepted_first hfirst

theorem loadFirst_spec (linker : Linker) (paths : List WString)
    (loadError : ℕ) (h : api.library = .nothing) :
    ∃ new result, Loading paths new result ∧
      (loadFirst linker paths loadError api).2 = api.found new result := by
  induction paths generalizing api loadError with
  | nil =>
      refine ⟨[], none, .exhausted, ?_⟩
      rw [found, List.append_nil]
      rfl
  | cons path paths ih =>
      obtain ⟨new, hstate, houtcome⟩ :=
        loadCandidate_spec linker api path
      rw [loadFirst]
      dsimp only
      split at houtcome
      · rename_i hrefused
        rw [if_neg (not_not.mpr hrefused), hstate]
        obtain ⟨more, result, hmore, hafter⟩ :=
          ih (api.loadCandidate linker path).1.lastError
            (show ({ api with log := api.log ++ new } : EspApi).library =
              .nothing from h)
        refine ⟨new ++ more, result, .refused houtcome hmore, ?_⟩
        rw [hafter]
        cases result with
        | none =>
            rw [found, found, List.append_assoc]
        | some result =>
            rw [found, found, List.append_assoc]
      · rename_i haccepted
        refine ⟨new, _, .accepted houtcome, ?_⟩
        rw [if_pos haccepted, hstate, resetLibrary_adopts
          (show ({ api with log := api.log ++ new } : EspApi).library =
            .nothing from h) haccepted]
        rfl

end

/-! ## The addresses of the exports -/

/-- The address came from the library that is loaded, and no library was
released since. -/
def Origin (library : Handle) (log : List LinkerEvent)
    (descriptor : ExportDescriptor) : Prop :=
  ∃ before new, log = before ++ new ∧
    (∃ e ∈ new, e.call = .getProcAddress library descriptor.name ∧
      e.reply.handle = descriptor.address) ∧
    ∀ e ∈ new, libraries.closes e = none

/-- Name and arity of a descriptor. -/
def entry (descriptor : ExportDescriptor) : String × ℕ :=
  (descriptor.name, descriptor.arity)

section

variable {linker : Linker} {api : EspApi}

theorem resolveExports_spec (linker : Linker)
    (descriptors : List ExportDescriptor) (api : EspApi) :
    ∃ new, (resolveExports linker descriptors api).2 =
        { api with log := api.log ++ new } ∧
      (resolveExports linker descriptors api).1.map entry =
        descriptors.map entry ∧
      (∀ descriptor ∈ (resolveExports linker descriptors api).1,
        ∃ e ∈ new,
          e.call = .getProcAddress api.library.handle descriptor.name ∧
          e.reply.handle = descriptor.address) ∧
      ∀ e ∈ new, ∃ name, e.call = .getProcAddress api.library.handle name := by
  induction descriptors generalizing api with
  | nil =>
      refine ⟨[], ?_, rfl, ?_, ?_⟩
      · rw [List.append_nil]
        rfl
      · intro descriptor hmem
        cases hmem
      · intro e hmem
        cases hmem
  | cons descriptor descriptors ih =>
      let e : LinkerEvent :=
        ⟨(), .getProcAddress api.library.handle descriptor.name,
          linker.respond api.log
            (.getProcAddress api.library.handle descriptor.name)⟩
      obtain ⟨new, hstate, hentries, horigins, hcalls⟩ :=
        ih { api with log := api.log ++ [e] }
      refine ⟨e :: new, ?_, ?_, ?_, ?_⟩
      · rw [List.append_cons]
        exact hstate
      · exact congrArg (entry descriptor :: ·) hentries
      · intro found hmem
        rcases List.mem_cons.mp hmem with rfl | hmem
        · exact ⟨e, List.mem_cons_self, rfl, rfl⟩
        · obtain ⟨e', he', hcall⟩ := horigins found hmem
          exact ⟨e', List.mem_cons_of_mem _ he', hcall⟩
      · intro e' hmem
        rcases List.mem_cons.mp hmem with rfl | hmem
        · exact ⟨descriptor.name, rfl⟩
        · exact hcalls e' hmem

/-- What `Load` starts from: nothing is loaded. -/
def cleared (linker : Linker) (api : EspApi) : EspApi :=
  { api.unload linker with lastError := "" }

/-- The state after the addresses were taken from the library. -/
def resolved (api : EspApi) (descriptors : List ExportDescriptor)
    (new : List LinkerEvent) : EspApi :=
  { api with exports := descriptors, log := api.log ++ new }

/-- The addresses that `Load` took from a library. -/
structure Resolves (library : Handle) (descriptors : List ExportDescriptor)
    (new : List LinkerEvent) : Prop where
  table : descriptors.map entry = buildCatalog.map entry
  origin : ∀ descriptor ∈ descriptors, ∃ e ∈ new,
    e.call = .getProcAddress library descriptor.name ∧
      e.reply.handle = descriptor.address
  calls : ∀ e ∈ new, ∃ name, e.call = .getProcAddress library name

/-- How a `Load` ends: nothing could be loaded, the library has none of the
exports and is released again, or it is linked. -/
inductive LoadEnds (linker : Linker) (explicitPath : WString)
    (api : EspApi) : Bool × EspApi → Prop
  | notLoaded {new : List LinkerEvent} {message : String}
      (hloading : Loading (candidates linker explicitPath) new none)
      (hmessage : message ≠ "") :
      LoadEnds linker explicitPath api
        (false, { (api.cleared linker).found new none with
          lastError := message })
  | useless {new addresses : List LinkerEvent} {path : WString}
      {handle : Handle} {descriptors : List ExportDescriptor}
      {message : String}
      (hloading : Loading (candidates linker explicitPath) new
        (some (path, handle)))
      (hresolves : Resolves handle descriptors addresses)
      (hmessage : message ≠ "") :
      LoadEnds linker explicitPath api
        (false, { ((api.cleared linker).found new
            (some (path, handle))).resolved descriptors addresses with
          lastError := message }.unload linker)
  | linked {new addresses : List LinkerEvent} {path : WString}
      {handle : Handle} {descriptors : List ExportDescriptor}
      (hloading : Loading (candidates linker explicitPath) new
        (some (path, handle)))
      (hresolves : Resolves handle descriptors addresses)
      (hused : ∃ descriptor ∈ descriptors, descriptor.address ≠ 0) :
      LoadEnds linker explicitPath api
        (true, ((api.cleared linker).found new
          (some (path, handle))).resolved descriptors addresses)

theorem Loading.handle_ne {paths : List WString} {new : List LinkerEvent}
    {path : WString} {handle : Handle}
    (h : Loading paths new (some (path, handle))) : handle ≠ 0 := by
  generalize hresult : some (path, handle) = result at h
  induction h with
  | exhausted => cases hresult
  | accepted haccepted =>
      cases hresult
      exact haccepted.handle_ne
  | refused _ _ ih => exact ih hresult

theorem library_ofHandle {handle : Handle} (h : handle ≠ 0) :
    (UniqueCloser.ofHandle handle : UniqueCloser nonEmptyCloser).handle =
      handle := by
  have husable : nonEmptyCloser.usable handle = true := bne_iff_ne.mpr h
  rw [UniqueCloser.ofHandle, dif_pos husable]

theorem held_library {handle : Handle} (h : handle ≠ 0) :
    (UniqueCloser.ofHandle handle : UniqueCloser nonEmptyCloser).held =
      [handle] :=
  UniqueCloser.held_ofHandle (bne_iff_ne.mpr h)

theorem string_append_ne_empty {s t : String} (h : s ≠ "") : s ++ t ≠ "" := by
  intro heq
  exact h (String.append_eq_empty_iff.mp heq).1

theorem load_ends (linker : Linker) (explicitPath : WString)
    (htable : api.exports.map entry = buildCatalog.map entry) :
    LoadEnds linker explicitPath api (api.load linker explicitPath) := by
  obtain ⟨new, result, hloading, hstate⟩ :=
    loadFirst_spec linker (candidates linker explicitPath)
      kErrorModNotFound
      (show (api.cleared linker).library = .nothing by
        rw [cleared, unload_eq])
  rw [load]
  dsimp only
  rw [show ({ api.unload linker with lastError := "" } : EspApi) =
    api.cleared linker from rfl, hstate]
  cases result with
  | none =>
      have hheld : ((api.cleared linker).found new none).library.held = [] := by
        rw [found, cleared, unload_eq]
        exact held_nothing
      rw [if_pos hheld]
      refine .notLoaded hloading ?_
      simp only [String.append_assoc]
      exact string_append_ne_empty (by decide)
  | some result =>
      obtain ⟨path, handle⟩ := result
      have hne := hloading.handle_ne
      have hheld : ((api.cleared linker).found new
          (some (path, handle))).library.held ≠ [] := by
        rw [found, held_library hne]
        exact List.cons_ne_nil _ _
      rw [if_neg hheld]
      obtain ⟨addresses, hresolved, hentries, horigin, hcalls⟩ :=
        resolveExports_spec linker
          ((api.cleared linker).found new (some (path, handle))).exports
          ((api.cleared linker).found new (some (path, handle)))
      have hhandle : ((api.cleared linker).found new
          (some (path, handle))).library.handle = handle := by
        rw [found, library_ofHandle hne]
      rw [hhandle] at horigin hcalls
      have hcatalog : ((api.cleared linker).found new
          (some (path, handle))).exports.map entry =
            buildCatalog.map entry := by
        rw [found, cleared, unload_eq, ← htable]
        exact List.map_map
      have hresolves : Resolves handle _ addresses :=
        ⟨hentries.trans hcatalog, horigin, hcalls⟩
      rw [hresolved]
      split
      · exact .useless hloading hresolves (by decide)
      · rename_i hall
        refine .linked hloading hresolves ?_
        simpa using hall

end

/-! ## What holds of the linker at all times -/

/-- Either nothing is loaded and no export has an address, or a library is
loaded, some export is resolved, and every address is one of that library. -/
structure Linked (api : EspApi) : Prop where
  table : api.exports.map entry = buildCatalog.map entry
  unloaded : api.library.held = [] →
    api.loadedPath = [] ∧ ∀ descriptor ∈ api.exports, descriptor.address = 0
  loaded : api.library.held ≠ [] →
    api.loadedPath ≠ [] ∧
    (∃ descriptor ∈ api.exports, descriptor.address ≠ 0) ∧
    ∀ descriptor ∈ api.exports,
      Origin api.library.handle api.log descriptor

/-- The module handles that the linker answers for. -/
def Holding (base : List LinkerEvent) (api : EspApi) : Prop :=
  libraries.Holds base api.log ↑api.library.held

section

variable {linker : Linker} {api : EspApi} {base : List LinkerEvent}

theorem linked_initial : Linked {} := by
  refine ⟨rfl, fun _ => ⟨rfl, ?_⟩, fun h => absurd held_nothing h⟩
  decide

theorem Linked.unload (linker : Linker) (h : api.Linked) : (api.unload linker).Linked := by
  rw [unload_eq]
  refine ⟨?_, fun _ => ⟨rfl, ?_⟩, fun h => absurd held_nothing h⟩
  · rw [← h.table, List.map_map]
    rfl
  · intro descriptor hmem
    obtain ⟨old, -, rfl⟩ := List.mem_map.mp hmem
    rfl

theorem Holding.unload (linker : Linker) (h : api.Holding base) :
    (api.unload linker).Holding base := by
  rw [unload_eq]
  refine Custody.Holds.append_closes ?_ ?_
  · have hcloses : (api.closing linker).filterMap libraries.closes =
        api.library.held := by
      rw [closing, List.filterMap_map]
      exact List.filterMap_some
    rw [hcloses, held_nothing, Multiset.coe_nil, add_zero]
    exact h
  · rw [closing, List.filterMap_map]
    exact List.filterMap_eq_nil_iff.mpr fun _ _ => rfl

theorem Loading.closes {paths : List WString} {new : List LinkerEvent}
    {result : Option (WString × Handle)} (h : Loading paths new result) :
    new.filterMap libraries.closes = [] := by
  induction h with
  | exhausted => rfl
  | accepted h => exact h.closes
  | refused h _ ih => rw [List.filterMap_append, h.closes, ih]; rfl

theorem Loading.opens {paths : List WString} {new : List LinkerEvent}
    {result : Option (WString × Handle)} (h : Loading paths new result) :
    new.filterMap libraries.opens = (result.map Prod.snd).toList := by
  induction h with
  | exhausted => rfl
  | accepted h => exact h.opens
  | refused h _ ih => rw [List.filterMap_append, h.opens, ih]; rfl

theorem Loading.mem {paths : List WString} {new : List LinkerEvent}
    {path : WString} {handle : Handle}
    (h : Loading paths new (some (path, handle))) : path ∈ paths := by
  generalize hresult : some (path, handle) = result at h
  induction h with
  | exhausted => cases hresult
  | accepted _ =>
      cases hresult
      exact List.mem_cons_self
  | refused _ _ ih => exact List.mem_cons_of_mem _ (ih hresult)

theorem candidates_ne_nil {linker : Linker} {explicitPath path : WString}
    (h : path ∈ candidates linker explicitPath) : path ≠ [] := by
  have hdll : kEspClientDll ≠ [] := by decide
  unfold candidates at h
  split at h
  · rename_i hexplicit
    rw [List.mem_singleton.mp h]
    exact hexplicit
  split at h
  · rename_i hdirectory
    rcases List.mem_cons.mp h with rfl | h
    · exact List.append_ne_nil_of_left_ne_nil hdirectory _
    · rw [List.mem_singleton.mp h]
      exact hdll
  · rw [List.mem_singleton.mp h]
    exact hdll

/-- The loop and the lookups keep the books of the handle they found. -/
theorem Holding.loading (h : api.Holding base) {paths : List WString}
    {new : List LinkerEvent} {path : WString} {handle : Handle}
    (hloading : Loading paths new (some (path, handle)))
    (hempty : api.library = .nothing) :
    (api.found new (some (path, handle))).Holding base := by
  have hopens := Custody.Holds.append_opens (c := libraries) h
    (List.filterMap_eq_nil_iff.mp hloading.closes)
  rw [hloading.opens, hempty, held_nothing, Multiset.coe_nil,
    add_zero] at hopens
  rw [Holding, found, held_library hloading.handle_ne]
  exact hopens

theorem Holding.resolved (h : api.Holding base)
    {descriptors : List ExportDescriptor} {new : List LinkerEvent}
    {library : Handle} (hresolves : Resolves library descriptors new) :
    (api.resolved descriptors new).Holding base := by
  refine Custody.Holds.append_ignored h ?_ ?_
  · rw [List.filterMap_eq_nil_iff]
    intro e he
    obtain ⟨name, hcall⟩ := hresolves.calls e he
    simp [libraries, hcall]
  · rw [List.filterMap_eq_nil_iff]
    intro e he
    obtain ⟨name, hcall⟩ := hresolves.calls e he
    simp [libraries, hcall]

theorem Holding.load (linker : Linker) (h : api.Holding base)
    (htable : api.exports.map entry = buildCatalog.map entry)
    (explicitPath : WString) :
    (api.load linker explicitPath).2.Holding base := by
  have hcleared : (api.cleared linker).Holding base :=
    Holding.unload linker h
  have hempty : (api.cleared linker).library = .nothing := by
    rw [cleared, unload_eq]
  have hends := load_ends linker explicitPath htable
  generalize api.load linker explicitPath = result at hends
  cases hends with
  | notLoaded hloading hmessage =>
      exact Custody.Holds.append_ignored hcleared hloading.opens
        hloading.closes
  | useless hloading hresolves hmessage =>
      exact Holding.unload linker
        ((hcleared.loading hloading hempty).resolved hresolves)
  | linked hloading hresolves hused =>
      exact (hcleared.loading hloading hempty).resolved hresolves

theorem linked_load (linker : Linker)
    (htable : api.exports.map entry = buildCatalog.map entry)
    (explicitPath : WString) :
    (api.load linker explicitPath).2.Linked := by
  have hcleared : (api.cleared linker).exports.map entry =
      buildCatalog.map entry := by
    rw [cleared, unload_eq, ← htable, List.map_map]
    rfl
  have hends := load_ends linker explicitPath htable
  generalize api.load linker explicitPath = result at hends
  cases hends with
  | notLoaded hloading hmessage =>
      refine ⟨hcleared, fun _ => ?_, ?_⟩
      · rw [found, cleared, unload_eq]
        refine ⟨rfl, fun descriptor hmem => ?_⟩
        obtain ⟨old, -, rfl⟩ := List.mem_map.mp hmem
        rfl
      · rw [found, cleared, unload_eq]
        exact fun h => absurd held_nothing h
  | useless hloading hresolves hmessage =>
      rw [unload_eq]
      refine ⟨?_, fun _ => ⟨rfl, ?_⟩, fun h => absurd held_nothing h⟩
      · rw [← hresolves.table, List.map_map]
        rfl
      · intro descriptor hmem
        obtain ⟨old, -, rfl⟩ := List.mem_map.mp hmem
        rfl
  | @linked new addresses path handle descriptors hloading hresolves hused =>
      have hheld : ((api.cleared linker).found new
          (some (path, handle))).library.held = [handle] :=
        held_library hloading.handle_ne
      refine ⟨hresolves.table, ?_, fun _ => ⟨?_, hused, ?_⟩⟩
      · intro hnil
        exact absurd (hheld.symm.trans hnil) (List.cons_ne_nil _ _)
      · exact candidates_ne_nil hloading.mem
      · intro descriptor hmem
        refine ⟨_, addresses, rfl, ?_, ?_⟩
        · rw [show (((api.cleared linker).found new
            (some (path, handle))).resolved descriptors
              addresses).library.handle = handle from
            library_ofHandle hloading.handle_ne]
          exact hresolves.origin descriptor hmem
        · intro e he
          obtain ⟨name, hcall⟩ := hresolves.calls e he
          simp [libraries, hcall]

end

end EspApi

/-! ## Runs of the linker -/

inductive ApiOp
  | load (explicitPath : WString)
  | unload

def ApiOp.apply (linker : Linker) (api : EspApi) : ApiOp → EspApi
  | .load explicitPath => (api.load linker explicitPath).2
  | .unload => api.unload linker

def runApi (linker : Linker) (ops : List ApiOp) : EspApi :=
  ops.foldl (fun api op => op.apply linker api) {}

section

variable {linker : Linker} {api : EspApi}

theorem ApiOp.apply_linked (op : ApiOp) (h : api.Linked) :
    (op.apply linker api).Linked := by
  cases op with
  | load explicitPath => exact EspApi.linked_load linker h.table explicitPath
  | unload => exact h.unload linker

theorem ApiOp.apply_holding (op : ApiOp) {base : List LinkerEvent}
    (h : api.Linked) (hholding : api.Holding base) :
    (op.apply linker api).Holding base := by
  cases op with
  | load explicitPath => exact hholding.load linker h.table explicitPath
  | unload => exact hholding.unload linker

end

theorem runApi_invariant (linker : Linker) (ops : List ApiOp) :
    (runApi linker ops).Linked ∧ (runApi linker ops).Holding [] := by
  induction ops using List.reverseRecOn with
  | nil =>
      refine ⟨EspApi.linked_initial, ?_⟩
      rw [EspApi.Holding, show (runApi linker []).library.held = [] from
        held_nothing]
      exact Custody.Holds.refl []
  | append_singleton ops op ih =>
      rw [runApi, List.foldl_concat]
      exact ⟨op.apply_linked ih.1, op.apply_holding ih.1 ih.2⟩

/-- What a program that loads and unloads libraries keeps to. -/
structure KeepsLibraries (linker : Linker) (api : EspApi) : Prop where
  linked : api.Linked
  /-- No library is released more often than it was loaded. -/
  sound : ∀ before, before <+: api.log → ∀ library,
    libraries.closed before library ≤ libraries.opened before library
  /-- After the destructor every load was released. -/
  settled : ∀ library,
    libraries.opened (api.unload linker).log library =
      libraries.closed (api.unload linker).log library

/-- In every run of loads and unloads each library is released exactly once,
and an export has an address only while the library it came from is loaded. -/
theorem runApi_keepsLibraries (linker : Linker) (ops : List ApiOp) :
    KeepsLibraries linker (runApi linker ops) := by
  obtain ⟨hlinked, hholding⟩ := runApi_invariant linker ops
  have hbalanced := Custody.holds_nil_iff.mp hholding
  have hunloaded := hholding.unload linker
  rw [EspApi.Holding, EspApi.unload_eq, held_nothing,
    Multiset.coe_nil] at hunloaded
  refine ⟨hlinked, hbalanced.sound, fun library => ?_⟩
  rw [EspApi.unload_eq]
  exact (Custody.holds_nil_iff.mp hunloaded).settled library

/-! ## One load -/

/-- The attempts on candidates that are refused: two on each. -/
def refusals (paths : List WString) : List (WString × Bool) :=
  paths.flatMap fun path => [(path, false), (path, false)]

/-- The attempts of one `Load`: candidates are refused up to the one that is
loaded, if there is one. -/
def TriesInOrder (paths : List WString) (attempts : List (WString × Bool)) :
    Option WString → Prop
  | none => attempts = refusals paths
  | some path => ∃ refused rest, paths = refused ++ path :: rest ∧
      (attempts = refusals refused ++ [(path, true)] ∨
        attempts = refusals refused ++ [(path, false), (path, true)])

/-- A path that was tried is a candidate. -/
theorem TriesInOrder.mem {paths : List WString}
    {attempts : List (WString × Bool)} {found : Option WString}
    (h : TriesInOrder paths attempts found) {attempt : WString × Bool}
    (hmem : attempt ∈ attempts) : attempt.1 ∈ paths := by
  have hrefused : ∀ refused : List WString, attempt ∈ refusals refused →
      attempt.1 ∈ refused := by
    intro refused hattempt
    obtain ⟨path, hpath, hattempt⟩ := List.mem_flatMap.mp hattempt
    simp only [List.mem_cons, List.not_mem_nil, or_false, or_self] at hattempt
    rw [hattempt]
    exact hpath
  cases found with
  | none =>
      rw [TriesInOrder] at h
      exact hrefused paths (h ▸ hmem)
  | some path =>
      obtain ⟨refused, rest, hpaths, hattempts⟩ := h
      rw [hpaths]
      rcases hattempts with hattempts | hattempts
      · rw [hattempts] at hmem
        rcases List.mem_append.mp hmem with hmem | hmem
        · exact List.mem_append_left _ (hrefused refused hmem)
        · rw [List.mem_singleton.mp hmem]
          simp
      · rw [hattempts] at hmem
        rcases List.mem_append.mp hmem with hmem | hmem
        · exact List.mem_append_left _ (hrefused refused hmem)
        · simp only [List.mem_cons, List.not_mem_nil, or_false] at hmem
          rcases hmem with rfl | rfl <;> simp

namespace EspApi

theorem loads_append (log new : List LinkerEvent) :
    loads (log ++ new) = loads log ++ loads new :=
  List.filterMap_append

theorem Loading.triesInOrder {paths : List WString} {new : List LinkerEvent}
    {result : Option (WString × Handle)} (h : Loading paths new result) :
    TriesInOrder paths (loads new) (result.map Prod.fst) := by
  induction h with
  | exhausted => rfl
  | @accepted path rest handle new h => exact ⟨[], rest, rfl, h.loads⟩
  | @refused path rest new more found h hmore ih =>
      rw [loads_append, h.loads]
      cases found with
      | none => exact congrArg ([(path, false), (path, false)] ++ ·) ih
      | some found =>
          obtain ⟨refused, rest, hpaths, hattempts⟩ := ih
          refine ⟨path :: refused, rest, by rw [hpaths]; rfl, ?_⟩
          rcases hattempts with hattempts | hattempts
          · exact Or.inl (congrArg
              ([(path, false), (path, false)] ++ ·) hattempts)
          · exact Or.inr (congrArg
              ([(path, false), (path, false)] ++ ·) hattempts)

end EspApi

/-- What one `Load` does, from the state before it. -/
structure LoadsInOrder (linker : Linker) (explicitPath : WString)
    (api : EspApi) (result : Bool × EspApi) : Prop where
  /-- It tries the candidates in order and stops at the first that loads. -/
  attempts : ∃ new found, result.2.log = api.log ++ new ∧
    TriesInOrder (candidates linker explicitPath) (loads new) found ∧
    (result.1 = true → found = some result.2.loadedPath)
  /-- An explicit path is never satisfied by another library. -/
  explicit : explicitPath ≠ [] → ∀ new, result.2.log = api.log ++ new →
    (∀ attempt ∈ loads new, attempt.1 = explicitPath) ∧
    (result.1 = true → result.2.loadedPath = explicitPath)
  /-- It is successful exactly when exports were resolved. -/
  success : result.1 = true ↔ 0 < result.2.resolvedCount
  /-- A failure leaves a message and nothing else. -/
  failure : result.1 = false → result.2.lastError ≠ "" ∧
    result.2.library.held = [] ∧ result.2.loadedPath = []
  /-- A success leaves no message. -/
  message : result.1 = true → result.2.lastError = ""

namespace EspApi

section

variable {linker : Linker} {api : EspApi}

theorem resolvedCount_pos_iff :
    0 < api.resolvedCount ↔
      ∃ descriptor ∈ api.exports, descriptor.address ≠ 0 := by
  rw [resolvedCount, List.countP_pos_iff]
  simp

theorem held_unload (linker : Linker) (api : EspApi) :
    (api.unload linker).library.held = [] := by
  rw [unload_eq]
  exact held_nothing

theorem loads_closing (linker : Linker) (api : EspApi) :
    loads (api.closing linker) = [] := by
  rw [loads, closing, List.filterMap_map]
  exact List.filterMap_eq_nil_iff.mpr fun _ _ => rfl

theorem Resolves.loads {library : Handle}
    {descriptors : List ExportDescriptor} {new : List LinkerEvent}
    (h : Resolves library descriptors new) : Esp.loads new = [] := by
  rw [Esp.loads, List.filterMap_eq_nil_iff]
  intro e he
  obtain ⟨name, hcall⟩ := h.calls e he
  rw [hcall]

/-- The attempts of a load, with the path it leaves. -/
theorem load_attempts (linker : Linker) (explicitPath : WString)
    (htable : api.exports.map entry = buildCatalog.map entry) :
    ∃ new found, (api.load linker explicitPath).2.log = api.log ++ new ∧
      TriesInOrder (candidates linker explicitPath) (loads new) found ∧
      ((api.load linker explicitPath).1 = true →
        found = some (api.load linker explicitPath).2.loadedPath) := by
  have hends := load_ends linker explicitPath htable
  have hclosing := loads_closing linker api
  generalize api.load linker explicitPath = result at hends
  cases hends with
  | @notLoaded new message hloading hmessage =>
      refine ⟨api.closing linker ++ new, none, ?_, ?_, nofun⟩
      · rw [found, cleared, unload_eq, List.append_assoc]
      · rw [loads_append, hclosing]
        exact hloading.triesInOrder
  | @useless new addresses path handle descriptors message hloading hresolves
      hmessage =>
      refine ⟨api.closing linker ++ new ++ addresses ++
        (((api.cleared linker).found new (some (path, handle))).resolved
          descriptors addresses).closing linker,
        some path, ?_, ?_, nofun⟩
      · rw [unload_eq]
        simp only [resolved, found, cleared, unload_eq, closing,
          List.append_assoc]
      · rw [loads_append, loads_append, loads_append, hclosing,
          hresolves.loads, loads_closing, List.append_nil, List.append_nil]
        exact hloading.triesInOrder
  | @linked new addresses path handle descriptors hloading hresolves hused =>
      refine ⟨api.closing linker ++ new ++ addresses, some path, ?_, ?_,
        fun _ => rfl⟩
      · rw [resolved, found, cleared, unload_eq]
        simp only [List.append_assoc]
      · rw [loads_append, loads_append, hclosing, hresolves.loads,
          List.append_nil]
        exact hloading.triesInOrder

theorem load_success (linker : Linker) (explicitPath : WString)
    (htable : api.exports.map entry = buildCatalog.map entry) :
    ((api.load linker explicitPath).1 = true ↔
      0 < (api.load linker explicitPath).2.resolvedCount) ∧
    ((api.load linker explicitPath).1 = false →
      (api.load linker explicitPath).2.lastError ≠ "" ∧
      (api.load linker explicitPath).2.library.held = [] ∧
      (api.load linker explicitPath).2.loadedPath = []) ∧
    ((api.load linker explicitPath).1 = true →
      (api.load linker explicitPath).2.lastError = "") := by
  have hlinked := linked_load linker htable explicitPath
  have hends := load_ends linker explicitPath htable
  generalize api.load linker explicitPath = result at hends hlinked
  cases hends with
  | @notLoaded new message hloading hmessage =>
      have hheld : ({ (api.cleared linker).found new none with
          lastError := message } : EspApi).library.held = [] := by
        rw [found, cleared, unload_eq]
        exact held_nothing
      refine ⟨⟨nofun, fun hpos => ?_⟩,
        fun _ => ⟨hmessage, hheld, (hlinked.unloaded hheld).1⟩, nofun⟩
      obtain ⟨descriptor, hmem, hne⟩ := resolvedCount_pos_iff.mp hpos
      exact absurd ((hlinked.unloaded hheld).2 descriptor hmem) hne
  | useless hloading hresolves hmessage =>
      have hempty := hlinked.unloaded (held_unload linker _)
      refine ⟨⟨nofun, fun hpos => ?_⟩,
        fun _ => ⟨?_, held_unload linker _, hempty.1⟩, nofun⟩
      · obtain ⟨descriptor, hmem, hne⟩ := resolvedCount_pos_iff.mp hpos
        exact absurd (hempty.2 descriptor hmem) hne
      · rw [unload_eq]
        exact hmessage
  | linked hloading hresolves hused =>
      refine ⟨⟨fun _ => resolvedCount_pos_iff.mpr hused, fun _ => rfl⟩,
        nofun, fun _ => ?_⟩
      rw [resolved, found, cleared, unload_eq]

theorem candidates_explicit {explicitPath : WString}
    (h : explicitPath ≠ []) : candidates linker explicitPath = [explicitPath] :=
  if_pos h

end

end EspApi

/-- In every state that loads and unloads lead to, `Load` tries its
candidates in order, takes no other library for an explicit path, and says
truly whether exports were resolved. -/
theorem runApi_loadsInOrder (linker : Linker) (ops : List ApiOp)
    (explicitPath : WString) :
    LoadsInOrder linker explicitPath (runApi linker ops)
      ((runApi linker ops).load linker explicitPath) := by
  have htable := (runApi_invariant linker ops).1.table
  generalize runApi linker ops = api at htable
  obtain ⟨new, found, hlog, htries, hfound⟩ :=
    EspApi.load_attempts linker explicitPath htable
  obtain ⟨hsuccess, hfailure, hmessage⟩ :=
    EspApi.load_success linker explicitPath htable
  refine ⟨⟨new, found, hlog, htries, hfound⟩, ?_, hsuccess, hfailure,
    hmessage⟩
  intro hexplicit other hother
  have hsame : other = new :=
    List.append_cancel_left (hother.symm.trans hlog)
  subst hsame
  rw [EspApi.candidates_explicit hexplicit] at htries
  refine ⟨fun attempt hmem => ?_, fun hloaded => ?_⟩
  · exact List.mem_singleton.mp (htries.mem hmem)
  · rw [hfound hloaded] at htries
    obtain ⟨refused, rest, hpaths, -⟩ := htries
    cases refused with
    | nil => exact (List.cons.inj hpaths).1.symm
    | cons path refused =>
        rw [List.cons_append, List.cons.injEq] at hpaths
        exact absurd hpaths.2.symm (by simp)

/-! ## Looking exports up -/

section

variable {api : EspApi} {name : String}

namespace EspApi

theorem Linked.names (h : api.Linked) :
    api.exports.map ExportDescriptor.name =
      buildCatalog.map ExportDescriptor.name := by
  have hnames := congrArg (List.map Prod.fst) h.table
  rw [List.map_map, List.map_map] at hnames
  exact hnames

/-- A name is in the table once, so `Find` finds its only descriptor. -/
theorem Linked.find_eq_some_iff (h : api.Linked)
    {descriptor : ExportDescriptor} :
    api.find name = some descriptor ↔
      descriptor ∈ api.exports ∧ descriptor.name = name := by
  have hnodup : (api.exports.map ExportDescriptor.name).Nodup := by
    rw [h.names]
    exact buildCatalog_names_nodup
  constructor
  · intro hfind
    have hname := List.find?_some hfind
    exact ⟨List.mem_of_find?_eq_some hfind, beq_iff_eq.mp hname⟩
  · rintro ⟨hmem, hname⟩
    cases hfind : api.find name with
    | none =>
        have hnone := List.find?_eq_none.mp hfind descriptor hmem
        exact absurd (beq_iff_eq.mpr hname) hnone
    | some other =>
        have hother : other ∈ api.exports := List.mem_of_find?_eq_some hfind
        have hsame := List.find?_some hfind
        rw [List.inj_on_of_nodup_map hnodup hother hmem
          ((beq_iff_eq.mp hsame).trans hname.symm)]

theorem Linked.find_eq_none_iff (h : api.Linked) :
    api.find name = none ↔
      name ∉ buildCatalog.map ExportDescriptor.name := by
  rw [← h.names, find, List.find?_eq_none, List.mem_map]
  simp

theorem mem_missing_iff : name ∈ api.missing ↔
    ∃ descriptor ∈ api.exports, descriptor.address = 0 ∧
      descriptor.name = name := by
  rw [missing, List.mem_map]
  simp [and_assoc]

end EspApi

/-- What the lookups report agrees with the table and with each other. -/
structure LooksUp (api : EspApi) : Prop where
  /-- A name is resolved exactly when it is in the table and not missing. -/
  resolve : ∀ name, api.resolve name ≠ 0 ↔
    name ∈ buildCatalog.map ExportDescriptor.name ∧ name ∉ api.missing
  /-- The missing names are in the order of the table. -/
  missing :
    api.missing.Sublist (buildCatalog.map ExportDescriptor.name)
  /-- Every export is counted once, as resolved or as missing. -/
  counted : api.resolvedCount + api.missing.length = buildCatalog.length
  /-- `Find` gives the arity of the table. -/
  arity : ∀ name descriptor, api.find name = some descriptor →
    (name, descriptor.arity) ∈ buildCatalog.map EspApi.entry

theorem EspApi.Linked.looksUp (h : api.Linked) : LooksUp api := by
  refine ⟨fun name => ?_, ?_, ?_, ?_⟩
  · cases hfind : api.find name with
    | none =>
        have hnot := h.find_eq_none_iff.mp hfind
        rw [EspApi.resolve, hfind]
        exact ⟨fun hne => absurd rfl hne, fun hin => absurd hin.1 hnot⟩
    | some descriptor =>
        obtain ⟨hmem, hname⟩ := h.find_eq_some_iff.mp hfind
        have hlisted : name ∈ buildCatalog.map ExportDescriptor.name := by
          rw [← h.names, ← hname]
          exact List.mem_map_of_mem hmem
        rw [EspApi.resolve, hfind, EspApi.mem_missing_iff]
        constructor
        · intro hne
          refine ⟨hlisted, ?_⟩
          rintro ⟨other, hother, hzero, hsame⟩
          have hfound := h.find_eq_some_iff.mpr ⟨hother, hsame⟩
          rw [hfind, Option.some.injEq] at hfound
          exact hne (hfound ▸ hzero)
        · rintro ⟨-, hmissing⟩ hzero
          exact hmissing ⟨descriptor, hmem, hzero, hname⟩
  · rw [← h.names, EspApi.missing]
    exact List.filter_sublist.map _
  · have hlength := congrArg List.length h.table
    rw [List.length_map, List.length_map] at hlength
    rw [EspApi.resolvedCount, EspApi.missing, List.length_map,
      ← List.countP_eq_length_filter, ← hlength]
    have hsplit := List.length_eq_countP_add_countP
      (fun descriptor : ExportDescriptor => descriptor.address != 0)
      (l := api.exports)
    rw [hsplit]
    refine congrArg (_ + ·) (List.countP_congr fun descriptor _ => ?_)
    simp
  · intro name descriptor hfind
    obtain ⟨hmem, hname⟩ := h.find_eq_some_iff.mp hfind
    rw [← h.table, ← hname]
    exact List.mem_map_of_mem hmem

end

theorem runApi_looksUp (linker : Linker) (ops : List ApiOp) :
    LooksUp (runApi linker ops) :=
  (runApi_invariant linker ops).1.looksUp

end Esptool.Esp
