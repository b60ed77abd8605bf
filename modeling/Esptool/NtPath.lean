import Esptool.EspRefs
import Esptool.Lib.Fields
import Mathlib.Data.List.TakeWhile

/-!
# NT paths of drive paths

A filter value behind `$nt:` is a drive path that becomes the device of the
drive followed by the components of the path, each as the disk writes it.  The
walk over the components stops at the first empty one, so two backslashes in a
row, which it skips behind the drive, end the expansion anywhere else.
-/

namespace Esptool

namespace Text

/-- The UTF-16 units of a text. -/
def toUtf16 (value : List Char) : List UInt16 :=
  value.flatMap fun c =>
    if c.toNat < 0x10000 then [UInt16.ofNat c.toNat]
    else
      [UInt16.ofNat (0xD800 + (c.toNat - 0x10000) / 0x400),
        UInt16.ofNat (0xDC00 + (c.toNat - 0x10000) % 0x400)]

end Text

namespace Esp

def backslash : UInt16 := 0x5C
def colon : UInt16 := 0x3A

/-- `FindFirstFileW`: the name on disk of what the path names. -/
abbrev FindFirstFile := List UInt16 → Option (List UInt16)

/-- What an open handle tells about its file; a failed query leaves the text
empty. -/
structure OpenedFile where
  onDiskFileName : List UInt16
  finalPathName : List UInt16

/-- The services of the system that an expansion asks. -/
structure NtSystem where
  findFirstFile : FindFirstFile
  createFile : List UInt16 → Option OpenedFile
  queryDosDevice : UInt16 → List UInt16

/-! ## The expansion -/

/-- The loop over the components, from `pos` on: `current` is the drive path
walked so far, `result` the NT path. -/
def walkComponents (find : FindFirstFile) (win32 : List UInt16) (pos : ℕ)
    (current result : List UInt16) : List UInt16 :=
  if pos < win32.length then
    let next := Fields.find backslash win32 pos
    let component :=
      (win32.drop pos).take (next.getD win32.length - pos)
    if component = [] then result
    else
      let name := (find (current ++ component)).getD component
      let walked := result ++ backslash :: name
      match _ : next with
      | none => walked
      | some next =>
          walkComponents find win32 (next + 1)
            (current ++ name ++ [backslash]) walked
  else result
termination_by win32.length - pos
decreasing_by
  have := Fields.le_of_find ‹_›
  omega

def expandWithOnDiskCasing (find : FindFirstFile) (win32 device : List UInt16) :
    List UInt16 :=
  if device = [] ∨ win32.length < 3 then []
  else
    let leading := ((win32.drop 2).takeWhile (· == backslash)).length
    walkComponents find win32 (2 + leading)
      [win32.headD 0, colon, backslash] device

def devicePrefixFromFinalPath (nt : List UInt16) : List UInt16 :=
  if nt.length < 9 ∨ nt.head? ≠ some backslash then []
  else
    match Fields.find backslash nt 1 with
    | none => []
    | some second =>
        match Fields.find backslash nt (second + 1) with
        | none => nt
        | some third => nt.take third

/-- The final path of the file, where the system names one. -/
def finalNtPath (file : Option OpenedFile) : List UInt16 :=
  ((file.map (·.finalPathName)).filter (·.head? == some backslash)).getD []

/-- The device of the drive, or else the one that the final path starts
with. -/
def ntDevice (system : NtSystem) (drive : UInt16) (finalNt : List UInt16) :
    List UInt16 :=
  let device := system.queryDosDevice drive
  if device = [] ∧ finalNt ≠ [] then devicePrefixFromFinalPath finalNt
  else device

def expandWin32ToNtDevice (system : NtSystem) (win32 : List Char) :
    List UInt16 :=
  let wide := Text.toUtf16 win32
  if wide.length < 2 ∨ wide[1]? ≠ some colon then wide
  else
    let file := system.createFile wide
    let onDisk := (file.map (·.onDiskFileName)).getD []
    let finalNt := finalNtPath file
    let device := ntDevice system (wide.headD 0) finalNt
    let walked :=
      if device = [] then []
      else expandWithOnDiskCasing system.findFirstFile wide device
    if walked ≠ [] then walked
    else if device ≠ [] ∧ onDisk ≠ [] then
      device ++ (if onDisk.head? = some backslash then [] else [backslash]) ++
        onDisk
    else if finalNt ≠ [] then finalNt
    else if device ≠ [] ∧ wide.length > 2 then device ++ wide.drop 2
    else wide

def expandFilterValue (system : NtSystem) (value : String) : List UInt16 :=
  if looksLikeNtPathPrefix value then
    expandWin32ToNtDevice system (value.toList.drop kNtPathPrefix.length)
  else Text.toUtf16 value.toList

/-! ## The walk on the fields of the path -/

/-- The names on disk of the components below a directory; a component that
is not found keeps its own spelling. -/
def namesOnDisk (find : FindFirstFile) (current : List UInt16) :
    List (List UInt16) → List (List UInt16)
  | [] => []
  | component :: rest =>
      let name := (find (current ++ component)).getD component
      name :: namesOnDisk find (current ++ name ++ [backslash]) rest

/-- The components written behind a device. -/
def joinComponents (components : List (List UInt16)) : List UInt16 :=
  components.flatMap (backslash :: ·)

section

variable {find : FindFirstFile} {win32 : List UInt16}

theorem walkComponents_last {pos : ℕ}
    (hlast : backslash ∉ win32.drop pos) (current result : List UInt16) :
    walkComponents find win32 pos current result =
      if win32.drop pos = [] then result
      else
        result ++ backslash ::
          (find (current ++ win32.drop pos)).getD (win32.drop pos) := by
  have hfind : Fields.find backslash win32 pos = none :=
    Fields.find_of_not_mem hlast
  have hfield : (win32.drop pos).take (win32.length - pos) =
      win32.drop pos := by
    rw [← List.length_drop, List.take_length]
  rw [walkComponents]
  by_cases hend : win32.drop pos = []
  · rw [if_pos hend]
    split <;> simp [hfind, hend]
  · have hlt : pos < win32.length := by
      by_contra h
      exact hend (List.drop_eq_nil_of_le (Nat.le_of_not_lt h))
    rw [if_pos hlt, if_neg hend]
    simp only [hfind, Option.getD_none, hfield, if_neg hend]
    split
    · rfl
    · rename_i hnext
      rw [hfind] at hnext
      cases hnext

theorem walkComponents_next {pos : ℕ} {component rest : List UInt16}
    (hcomponent : backslash ∉ component)
    (hdrop : win32.drop pos = component ++ backslash :: rest)
    (current result : List UInt16) :
    walkComponents find win32 pos current result =
      if component = [] then result
      else
        let name := (find (current ++ component)).getD component
        walkComponents find win32 (pos + component.length + 1)
          (current ++ name ++ [backslash]) (result ++ backslash :: name) := by
  have hfind : Fields.find backslash win32 pos =
      some (pos + component.length) := Fields.find_of_drop hcomponent hdrop
  have hlt : pos < win32.length := by
    have := (Fields.drop_behind hdrop).2
    omega
  have hfield : (win32.drop pos).take (pos + component.length - pos) =
      component := by
    rw [Nat.add_sub_cancel_left, hdrop, List.take_left]
  rw [walkComponents, if_pos hlt]
  simp only [hfind, Option.getD_some, hfield]
  split
  · rfl
  · split
    · rename_i hnext
      rw [hfind] at hnext
      cases hnext
    · rename_i hnext
      rw [hfind] at hnext
      cases hnext
      rfl

/-- The walk takes the fields of the path up to the first empty one. -/
theorem walkComponents_eq (start : ℕ) (current result : List UInt16) :
    walkComponents find win32 start current result =
      result ++ joinComponents (namesOnDisk find current
        (((win32.drop start).splitOn backslash).takeWhile
          fun field => !field.isEmpty)) := by
  induction start using Fields.induct backslash win32
    generalizing current result with
  | last start hlast =>
      rw [walkComponents_last hlast, List.splitOn_eq_singleton hlast]
      by_cases hend : win32.drop start = []
      · rw [if_pos hend, hend]
        simp [namesOnDisk, joinComponents]
      · rw [if_neg hend]
        simp [namesOnDisk, joinComponents, hend]
  | next start component rest hcomponent hdrop ih =>
      obtain ⟨hrest, -⟩ := Fields.drop_behind hdrop
      rw [walkComponents_next hcomponent hdrop, hdrop,
        List.splitOn_append_cons_self_of_not_mem hcomponent]
      by_cases hempty : component = []
      · rw [if_pos hempty, hempty]
        simp [namesOnDisk, joinComponents]
      · rw [if_neg hempty, ih, hrest]
        simp [namesOnDisk, joinComponents, hempty]

end

/-! ## Drive paths -/

/-- `X:\c1\...\cn`, where each component has its backslash in front and as
many more as it is paired with. -/
def drivePath (drive : UInt16) (components : List (ℕ × List UInt16)) :
    List UInt16 :=
  drive :: colon :: components.flatMap fun step =>
    List.replicate (step.1 + 1) backslash ++ step.2

/-- A name that a component can have. -/
def IsComponent (name : List UInt16) : Prop :=
  name ≠ [] ∧ backslash ∉ name

instance : DecidablePred IsComponent :=
  fun name => inferInstanceAs (Decidable (name ≠ [] ∧ backslash ∉ name))

theorem splitOn_replicate (k : ℕ) (text : List UInt16) :
    (List.replicate k backslash ++ text).splitOn backslash =
      List.replicate k [] ++ text.splitOn backslash := by
  induction k with
  | zero => rfl
  | succ k ih =>
      rw [List.replicate_succ, List.cons_append, ← List.nil_append (_ :: _),
        List.splitOn_append_cons_self_of_not_mem List.not_mem_nil, ih]
      rfl

/-- Every backslash but one between two components adds an empty field. -/
theorem splitOn_components {first : List UInt16}
    {others : List (ℕ × List UInt16)} (hfirst : backslash ∉ first)
    (hothers : ∀ step ∈ others, IsComponent step.2) :
    (first ++ others.flatMap fun step =>
        List.replicate (step.1 + 1) backslash ++ step.2).splitOn backslash =
      first :: others.flatMap fun step =>
        List.replicate step.1 [] ++ [step.2] := by
  induction others generalizing first with
  | nil => simpa using List.splitOn_eq_singleton hfirst
  | cons step rest ih =>
      have hstep := hothers step List.mem_cons_self
      have hrest := fun other h => hothers other (List.mem_cons_of_mem step h)
      rw [List.flatMap_cons, List.flatMap_cons, List.replicate_succ,
        List.cons_append, List.cons_append,
        List.splitOn_append_cons_self_of_not_mem hfirst, List.append_assoc,
        splitOn_replicate, ih hstep.2 hrest, List.append_assoc]
      rfl

theorem takeWhile_components {others : List (ℕ × List UInt16)}
    (hothers : ∀ step ∈ others, IsComponent step.2) :
    (others.flatMap fun step =>
        List.replicate step.1 [] ++ [step.2]).takeWhile
          (fun field => !field.isEmpty) =
      (others.takeWhile (·.1 == 0)).map (·.2) := by
  induction others with
  | nil => rfl
  | cons step rest ih =>
      obtain ⟨extra, name⟩ := step
      have hname : name ≠ [] := (hothers _ List.mem_cons_self).1
      have hrest := fun other h => hothers other (List.mem_cons_of_mem _ h)
      cases extra with
      | zero => simp [hname, ih hrest]
      | succ extra => simp [List.replicate_succ]

theorem joinComponents_append (first second : List (List UInt16)) :
    joinComponents (first ++ second) =
      joinComponents first ++ joinComponents second :=
  List.flatMap_append

theorem joinComponents_eq_nil {find : FindFirstFile} {current : List UInt16}
    {components : List (List UInt16)} :
    joinComponents (namesOnDisk find current components) = [] ↔
      components = [] := by
  cases components with
  | nil => exact iff_of_true rfl rfl
  | cons component rest => simp [joinComponents, namesOnDisk]

theorem namesOnDisk_append (find : FindFirstFile) (current : List UInt16)
    (first second : List (List UInt16)) :
    ∃ reached, namesOnDisk find current (first ++ second) =
      namesOnDisk find current first ++ namesOnDisk find reached second := by
  induction first generalizing current with
  | nil => exact ⟨current, rfl⟩
  | cons component rest ih =>
      obtain ⟨reached, hreached⟩ :=
        ih (current ++ (find (current ++ component)).getD component ++
          [backslash])
      refine ⟨reached, ?_⟩
      rw [List.cons_append, namesOnDisk, namesOnDisk, hreached,
        List.cons_append]

section

variable {find : FindFirstFile} {device : List UInt16} {drive : UInt16}
  {first : ℕ × List UInt16} {others : List (ℕ × List UInt16)}

/-- What the expansion keeps of a drive path: the components up to the first
one that stands behind more than one backslash. -/
theorem expandWithOnDiskCasing_drivePath (hdevice : device ≠ [])
    (hnames : ∀ step ∈ first :: others, IsComponent step.2) :
    expandWithOnDiskCasing find (drivePath drive (first :: others)) device =
      device ++ joinComponents (namesOnDisk find [drive, colon, backslash]
        (first.2 :: (others.takeWhile (·.1 == 0)).map (·.2))) := by
  obtain ⟨extra, name⟩ := first
  obtain ⟨hname, hfirst⟩ := hnames _ List.mem_cons_self
  have hothers := fun step h => hnames step (List.mem_cons_of_mem _ h)
  let tail := others.flatMap fun step =>
    List.replicate (step.1 + 1) backslash ++ step.2
  have hpath : drivePath drive ((extra, name) :: others) =
      drive :: colon :: (List.replicate (extra + 1) backslash ++
        (name ++ tail)) := by
    simp [drivePath, tail]
  have hleading : ((List.replicate (extra + 1) backslash ++
      (name ++ tail)).takeWhile (· == backslash)).length = extra + 1 := by
    cases name with
    | nil => exact absurd rfl hname
    | cons unit rest =>
        have hunit : unit ≠ backslash := by
          rintro rfl
          exact hfirst List.mem_cons_self
        rw [List.takeWhile_append_of_pos (by simp)]
        simp [hunit]
  have hlength : ¬ (drivePath drive ((extra, name) :: others)).length < 3 := by
    rw [hpath]
    simp only [List.length_cons, List.length_append, List.length_replicate]
    omega
  rw [expandWithOnDiskCasing, if_neg (by simp only [hdevice, hlength, or_self,
    not_false_iff]), hpath]
  simp only [List.drop_succ_cons, List.drop_zero, hleading, List.headD_cons]
  rw [walkComponents_eq, Nat.add_comm 2, List.drop_succ_cons,
    List.drop_succ_cons]
  have hdrop : (List.replicate (extra + 1) backslash ++
      (name ++ tail)).drop (extra + 1) = name ++ tail := by
    rw [List.drop_left' (List.length_replicate ..)]
  rw [hdrop, splitOn_components hfirst hothers, List.takeWhile_cons_of_pos
    (by simpa using hname), takeWhile_components hothers]

/-- The expansion keeps every component exactly when the drive has a device
and one backslash separates the components; only behind the drive more of them
do no harm. -/
theorem expandWithOnDiskCasing_whole_iff (find : FindFirstFile)
    (device : List UInt16) (drive : UInt16) (first : ℕ × List UInt16)
    (others : List (ℕ × List UInt16))
    (hnames : ∀ step ∈ first :: others, IsComponent step.2) :
    expandWithOnDiskCasing find (drivePath drive (first :: others)) device =
        device ++ joinComponents (namesOnDisk find [drive, colon, backslash]
          ((first :: others).map (·.2))) ↔
      device ≠ [] ∧ ∀ step ∈ others, step.1 = 0 := by
  by_cases hdevice : device = []
  · subst hdevice
    simp [expandWithOnDiskCasing, namesOnDisk, joinComponents]
  · rw [expandWithOnDiskCasing_drivePath hdevice hnames, List.map_cons,
      List.append_cancel_left_eq]
    constructor
    · intro hwhole
      refine ⟨hdevice, ?_⟩
      -- what the walk leaves out would have to add nothing to the path
      have hsplit : others.map (·.2) =
          (others.takeWhile (·.1 == 0)).map (·.2) ++
            (others.dropWhile (·.1 == 0)).map (·.2) := by
        rw [← List.map_append, List.takeWhile_append_dropWhile]
      obtain ⟨reached, hreached⟩ := namesOnDisk_append find
        [drive, colon, backslash]
        (first.2 :: (others.takeWhile (·.1 == 0)).map (·.2))
        ((others.dropWhile (·.1 == 0)).map (·.2))
      rw [hsplit, ← List.cons_append, hreached, joinComponents_append,
        List.self_eq_append_right, joinComponents_eq_nil,
        List.map_eq_nil_iff, List.dropWhile_eq_nil_iff] at hwhole
      intro step hstep
      simpa using hwhole step hstep
    · rintro ⟨-, hsingle⟩
      rw [List.takeWhile_eq_self_iff.mpr fun step h => by
        simpa using hsingle step h]

theorem expandWithOnDiskCasing_whole_system32 :
    expandWithOnDiskCasing (fun _ => none)
        (drivePath 0x43 [(1, Text.wide "Windows"), (0, Text.wide "System32")])
        (Text.wide "\\Device\\HarddiskVolume3") =
      Text.wide "\\Device\\HarddiskVolume3" ++
        joinComponents (namesOnDisk (fun _ => none) [0x43, colon, backslash]
          [Text.wide "Windows", Text.wide "System32"]) := by
  have hwhole := expandWithOnDiskCasing_whole_iff (fun _ => none)
    (Text.wide "\\Device\\HarddiskVolume3") 0x43 (1, Text.wide "Windows")
    [(0, Text.wide "System32")] (by decide)
  exact hwhole.mpr ⟨by decide, by decide⟩

/-- Behind a doubled backslash nothing is left of `C:\a\\b`. -/
theorem expandWithOnDiskCasing_doubled :
    drivePath 0x43 [(0, Text.wide "a"), (1, Text.wide "b")] =
        Text.wide "C:\\a\\\\b" ∧
      expandWithOnDiskCasing (fun _ => none) (Text.wide "C:\\a\\\\b")
          (Text.wide "\\Device\\HarddiskVolume3") ≠
        Text.wide "\\Device\\HarddiskVolume3" ++
          joinComponents (namesOnDisk (fun _ => none)
            [0x43, colon, backslash] [Text.wide "a", Text.wide "b"]) := by
  have hpath : drivePath 0x43 [(0, Text.wide "a"), (1, Text.wide "b")] =
      Text.wide "C:\\a\\\\b" := by decide
  refine ⟨hpath, ?_⟩
  rw [← hpath, expandWithOnDiskCasing_drivePath (by decide) (by decide)]
  decide

end

/-- Where a device is found, a path of the drive expands by the walk. -/
theorem expandWin32ToNtDevice_walk {system : NtSystem} {win32 : List Char}
    {wide device : List UInt16} (hwide : Text.toUtf16 win32 = wide)
    (hcolon : wide[1]? = some colon) (hlength : 3 ≤ wide.length)
    (hdevice : ntDevice system (wide.headD 0)
      (finalNtPath (system.createFile wide)) = device)
    (hfound : device ≠ []) :
    expandWin32ToNtDevice system win32 =
      expandWithOnDiskCasing system.findFirstFile wide device := by
  have hwalked :
      expandWithOnDiskCasing system.findFirstFile wide device ≠ [] := by
    rw [expandWithOnDiskCasing, if_neg (not_or.mpr ⟨hfound, by omega⟩),
      walkComponents_eq]
    simp [hfound]
  have hdrive : ¬ (wide.length < 2 ∨ wide[1]? ≠ some colon) :=
    not_or.mpr ⟨by omega, not_not.mpr hcolon⟩
  unfold expandWin32ToNtDevice
  simp only [hwide, hdevice, if_neg hdrive, if_neg hfound, if_pos hwalked]

/-- A filter value of that kind is the walk over the path behind `$nt:`. -/
theorem expandFilterValue_walk {system : NtSystem} {win32 : String}
    {wide device : List UInt16} (hwide : Text.toUtf16 win32.toList = wide)
    (hcolon : wide[1]? = some colon) (hlength : 3 ≤ wide.length)
    (hdevice : ntDevice system (wide.headD 0)
      (finalNtPath (system.createFile wide)) = device)
    (hfound : device ≠ []) :
    expandFilterValue system (kNtPathPrefix ++ win32) =
      expandWithOnDiskCasing system.findFirstFile wide device := by
  have hpath : win32 ≠ "" := by
    rintro rfl
    rw [← hwide] at hlength
    exact absurd hlength (by decide)
  have hnt : looksLikeNtPathPrefix (kNtPathPrefix ++ win32) = true := by
    have hsize : win32.utf8ByteSize ≠ 0 :=
      fun h => hpath (String.utf8ByteSize_eq_zero_iff.mp h)
    rw [looksLikeNtPathPrefix, Bool.and_eq_true, decide_eq_true_eq,
      String.utf8ByteSize_append, String.startsWith_string_iff,
      String.toList_append]
    exact ⟨by omega, List.prefix_append _ _⟩
  rw [expandFilterValue, if_pos hnt, String.toList_append,
    List.drop_left' (by rfl),
    expandWin32ToNtDevice_walk hwide hcolon hlength hdevice hfound]

end Esp

end Esptool
