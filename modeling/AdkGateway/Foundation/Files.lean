import AdkGateway.Foundation.KeyedMap

namespace AdkGateway.Foundation

/-- A path from the root, with neither `.` nor `..` in it. -/
abbrev Path := List String

/-- The files of a disk and their texts; a directory is there by its files. -/
abbrev FileTree := KeyedMap Path String

namespace Path

def descend (dir : Path) (component : String) : Path :=
  if component = "" ∨ component = "." then dir
  else if component = ".." then dir.dropLast
  else dir ++ [component]

def components (text : String) : List String := (text.toList.splitOn '/').map String.ofList

/-- A path below a directory; an absolute one replaces it. -/
def join (dir : Path) (text : String) : Path :=
  (components text).foldl descend (if text.toList.head? = some '/' then [] else dir)

/-- What follows the last dot of a file's name, where something is before the dot. -/
def extension (name : String) : Option String :=
  if name = ".." then none
  else match name.toList.reverse.dropWhile (· != '.') with
    | _ :: _ :: _ => some (String.ofList (name.toList.reverse.takeWhile (· != '.')).reverse)
    | _ => none

def childName (dir path : Path) : Option String :=
  if dir.isPrefixOf path then
    match path.drop dir.length with
    | [name] => some name
    | _ => none
  else none

theorem childName_eq_some_iff {dir path : Path} {name : String} :
    childName dir path = some name ↔ path = dir ++ [name] := by
  rw [childName]
  by_cases hprefix : dir <+: path
  · obtain ⟨rest, rfl⟩ := hprefix
    rw [if_pos (List.isPrefixOf_iff_prefix.mpr (List.prefix_append dir rest)),
      List.drop_left, List.append_cancel_left_eq]
    cases rest with
    | nil => simp
    | cons first rest => cases rest <;> simp
  · rw [if_neg fun h ↦ hprefix (List.isPrefixOf_iff_prefix.mp h)]
    refine iff_of_false nofun ?_
    rintro rfl
    exact hprefix (List.prefix_append dir [name])

theorem join_eq_append {dir : Path} {text : String} (hslash : '/' ∉ text.toList) (hempty : text ≠ "")
    (hdot : text ≠ ".") (hdots : text ≠ "..") : join dir text = dir ++ [text] := by
  have hhead : text.toList.head? ≠ some '/' := fun h ↦ hslash (List.mem_of_head? h)
  have hsplit : text.toList.splitOn '/' = [text.toList] := by
    refine List.splitOnP_eq_singleton fun c hc ↦ beq_eq_false_iff_ne.mpr ?_
    rintro rfl
    exact hslash hc
  rw [join, if_neg hhead, components, hsplit]
  simp [descend, hempty, hdot, hdots]

theorem extension_append_json {stem : String} (h : stem ≠ "") :
    extension (stem ++ ".json") = some "json" := by
  have hreverse : (stem ++ ".json").toList.reverse =
      'n' :: 'o' :: 's' :: 'j' :: '.' :: stem.toList.reverse := by simp
  have hne : stem ++ ".json" ≠ ".." := by
    intro heq
    have hlength := congrArg (·.toList.length) heq
    simp at hlength
  have hdrop : (stem ++ ".json").toList.reverse.dropWhile (· != '.') =
      '.' :: stem.toList.reverse := by
    rw [hreverse]
    rfl
  rw [extension, if_neg hne, hdrop, hreverse]
  cases hstem : stem.toList.reverse with
  | nil => exact absurd (String.toList_eq_nil_iff.mp (List.reverse_eq_nil_iff.mp hstem)) h
  | cons c cs => rfl

end Path

namespace FileTree

def move (src dest : Path) (files : FileTree) : FileTree :=
  (files.entries.filter fun e ↦ src.isPrefixOf e.1).foldl
    (fun acc e ↦ acc.insert (dest ++ e.1.drop src.length) e.2)
    (KeyedMap.retain (fun path _ ↦ !src.isPrefixOf path) files)

/-- Where nothing is moved to, what is not moved away stays. -/
theorem lookup_move {src dest path : Path} (files : FileTree) (h : ¬ dest <+: path) :
    (move src dest files).lookup path =
      if src <+: path then none else files.lookup path := by
  have hfold (es : List (Sigma fun _ : Path ↦ String)) (acc : FileTree) :
      (es.foldl (fun acc e ↦ acc.insert (dest ++ e.1.drop src.length) e.2) acc).lookup path =
        acc.lookup path := by
    induction es generalizing acc with
    | nil => rfl
    | cons e es ih =>
      have hne : path ≠ dest ++ e.1.drop src.length := by
        rintro rfl
        exact h (List.prefix_append _ _)
      rw [List.foldl_cons, ih, AList.lookup_insert_ne hne]
  rw [move, hfold, KeyedMap.lookup_retain]
  by_cases hsrc : src <+: path
  · rw [if_pos hsrc]
    cases files.lookup path <;> simp [hsrc]
  · have hkept : src.isPrefixOf path = false :=
      eq_false_of_ne_true fun htrue ↦ hsrc (List.isPrefixOf_iff_prefix.mp htrue)
    rw [if_neg hsrc]
    cases files.lookup path <;> simp [hkept]

end FileTree

structure Disk where
  isDir : Path → Bool
  isFile : Path → Bool
  root : isDir [] = true
  parent : ∀ dir name, isDir (dir ++ [name]) = true ∨ isFile (dir ++ [name]) = true →
    isDir dir = true

namespace Disk

/-- The disk with these directories, each of which is given with those above it. -/
def ofDirs (dirs : List Path) (h : [] ∈ dirs ∧ ∀ place ∈ dirs, place.dropLast ∈ dirs) : Disk where
  isDir place := place ∈ dirs
  isFile _ := false
  root := decide_eq_true h.1
  parent dir name hname := by
    have hmem : dir ++ [name] ∈ dirs := by simpa using hname
    simpa using h.2 _ hmem

variable (disk : Disk)

def Exists (place : Path) : Prop := disk.isDir place = true ∨ disk.isFile place = true

instance (place : Path) : Decidable (disk.Exists place) := inferInstanceAs (Decidable (_ ∨ _))

def walk : Path → List String → Option Path
  | place, [] => some place
  | place, component :: components =>
    if disk.isDir place ∧ disk.Exists (Path.descend place component) then
      walk (Path.descend place component) components
    else
      none

def canonicalize (cwd : Path) (text : String) : Option Path :=
  if text = "" then none
  else disk.walk (if text.toList.head? = some '/' then [] else cwd) (Path.components text)

variable {disk} {place place' cwd : Path} {text : String}

theorem walk_exists {components : List String} (hplace : disk.Exists place)
    (h : disk.walk place components = some place') : disk.Exists place' := by
  induction components generalizing place with
  | nil => exact Option.some_inj.mp h ▸ hplace
  | cons component components ih =>
    rw [walk] at h
    split at h
    case isTrue hin => exact ih hin.2 h
    case isFalse => cases h

theorem walk_eq_foldl {components : List String}
    (h : disk.walk place components = some place') :
    place' = components.foldl Path.descend place := by
  induction components generalizing place with
  | nil => exact (Option.some_inj.mp h).symm
  | cons component components ih =>
    rw [walk] at h
    split at h
    case isTrue => exact ih h
    case isFalse => cases h

theorem canonicalize_eq_join (h : disk.canonicalize cwd text = some place) :
    place = Path.join cwd text := by
  rw [canonicalize] at h
  split at h
  · cases h
  · exact walk_eq_foldl h

theorem ne_empty_of_canonicalize (h : disk.canonicalize cwd text = some place) : text ≠ "" := by
  rintro rfl
  cases h

theorem canonicalize_exists (hcwd : disk.isDir cwd = true)
    (h : disk.canonicalize cwd text = some place) : disk.Exists place := by
  rw [canonicalize] at h
  split at h
  · cases h
  · refine walk_exists ?_ h
    split
    · exact .inl disk.root
    · exact .inl hcwd

end Disk

namespace Path

def isStep (component : String) : Bool := component ≠ "" ∧ component ≠ "."

theorem foldl_descend {components : List String} (h : ".." ∉ components) (place : Path) :
    components.foldl descend place = place ++ components.filter isStep := by
  induction components generalizing place with
  | nil => simp
  | cons component components ih =>
    obtain ⟨hne, hrest⟩ := not_or.mp fun hor ↦ h (List.mem_cons.mpr hor)
    rw [List.foldl_cons, ih hrest, descend]
    by_cases hstay : component = "" ∨ component = "."
    · have hstep : isStep component = false := by
        rcases hstay with rfl | rfl
        · rfl
        · rfl
      rw [if_pos hstay, List.filter_cons_of_neg (by simp [hstep])]
    · rw [not_or] at hstay
      have hstep : isStep component = true := by simpa [isStep] using hstay
      rw [if_neg (by simpa using hstay), if_neg (Ne.symm hne), List.filter_cons_of_pos hstep,
        List.append_assoc, List.singleton_append]

theorem join_eq_filter {text : String} (h : ".." ∉ components text) (dir : Path) :
    join dir text =
      (if text.toList.head? = some '/' then [] else dir) ++ (components text).filter isStep :=
  foldl_descend h _

theorem notMem_of_mem_splitOn {sep : Char} {cs piece : List Char} (h : piece ∈ cs.splitOn sep) :
    sep ∉ piece := by
  rw [List.splitOn_eq_splitOnP] at h
  induction cs generalizing piece with
  | nil =>
    rw [List.splitOnP_nil, List.mem_singleton] at h
    simp [h]
  | cons c cs ih =>
    rw [List.splitOnP_cons_eq_if_modifyHead] at h
    split at h
    · rcases List.mem_cons.mp h with rfl | h
      · simp
      · exact ih h
    case isFalse hc =>
      cases hpieces : cs.splitOnP (· == sep) with
      | nil => exact absurd hpieces (List.splitOnP_ne_nil _ _)
      | cons first rest =>
        rw [hpieces, List.modifyHead_cons] at h
        rw [hpieces] at ih
        rcases List.mem_cons.mp h with rfl | h
        · have hfirst := ih List.mem_cons_self
          have hne : sep ≠ c := fun he ↦ hc (by simp [he])
          simp [hfirst, hne]
        · exact ih (List.mem_cons_of_mem _ h)

theorem slash_notMem_components (text : String) : "/" ∉ components text := by
  intro h
  obtain ⟨piece, hpiece, htext⟩ := List.mem_map.mp h
  have hslash : piece = ['/'] := by simpa using congrArg String.toList htext
  exact notMem_of_mem_splitOn hpiece (by simp [hslash])

end Path

end AdkGateway.Foundation
