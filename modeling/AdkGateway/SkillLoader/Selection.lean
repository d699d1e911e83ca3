import AdkGateway.Foundation.Files
import AdkGateway.Foundation.Lowercase
import AdkGateway.ProcessMessage.Tools
import AdkGateway.SkillLoader.MinimalYaml

namespace AdkGateway.SkillLoader

open Foundation Text
open ProcessMessage (SkillDocument contains triggered named selectSkill)

section Loader

structure Frontmatter where
  name : Option String
  description : Option String
  version : Option String
  tags : List String
  allowedTools : Option (List String)
  trigger : Option String
  references : List String

instance : Inhabited Frontmatter := ⟨⟨none, none, none, [], none, none, []⟩⟩

structure LoadedDocument extends SkillDocument where
  description : String
  version : Option String
  contentHash : String

def fileStem (name : String) : String :=
  match name.toList.reverse.dropWhile (· != '.') with
  | _ :: c :: cs => String.ofList (c :: cs).reverse
  | _ => name

def skillSuffix : List Char := ['.', 's', 'k', 'i', 'l', 'l']

def nameFromPath (path : Path) : String :=
  let stem := (path.getLast?.map fileStem).getD "unknown"
  if skillSuffix.isSuffixOf stem.toList then
    String.ofList (stem.toList.take (stem.toList.length - skillSuffix.length))
  else stem

-- `from_str` reads a frontmatter from a JSON text; `content_hash` is a hash of the text of a file
variable (fromStr : String → Option Frontmatter) (contentHash : String → String)

def tryParseYaml (yaml : String) : Option Frontmatter := fromStr (yamlToJsonMinimal yaml)

def parseSimpleYaml (yaml : String) : Frontmatter := (tryParseYaml fromStr yaml).getD default

def parseSkillStrict (content : String) : Option LoadedDocument :=
  match splitFrontmatter content with
  | (none, _) => none
  | (some yaml, body) =>
    let fm := (fromStr (yamlToJsonMinimal yaml)).getD (parseSimpleYaml fromStr yaml)
    match fm.name.filter (· ≠ ""), fm.description.filter (· ≠ "") with
    | some name, some description =>
      some ⟨⟨name, fm.tags, fm.allowedTools, fm.trigger, fm.references, body⟩, description,
        fm.version, contentHash content⟩
    | _, _ => none

def parseSkillPermissive (content : String) (path : Path) : LoadedDocument :=
  let (yaml, body) := splitFrontmatter content
  let derivedName := nameFromPath path
  let fm := (yaml.map fun yaml ↦
    (fromStr (yamlToJsonMinimal yaml)).getD ((tryParseYaml fromStr yaml).getD default)).getD default
  ⟨⟨fm.name.getD derivedName, fm.tags, fm.allowedTools, fm.trigger, fm.references, body⟩,
    fm.description.getD ("Convention file: " ++ derivedName), fm.version, contentHash content⟩

def skillFileSuffix : List Char := ['.', 's', 'k', 'i', 'l', 'l', '.', 'm', 'd']

def loadSkills (tree : FileTree) (dir : Path) : List LoadedDocument :=
  tree.entries.filterMap fun file ↦ do
    let name ← Path.childName dir file.1
    if skillFileSuffix.isSuffixOf name.toList then parseSkillStrict fromStr contentHash file.2
    else none

def defaultConventionFiles : List String :=
  ["CLAW.md", "AGENTS.md", "AGENT.md", "CLAUDE.md", "GEMINI.md", "COPILOT.md", "SKILLS.md",
    "SOUL.md"]

def loadConventions (tree : FileTree) (dir : Path) (extraPatterns : List String) :
    List LoadedDocument :=
  (defaultConventionFiles ++ extraPatterns).filterMap fun pattern ↦
    let path := Path.join dir pattern
    (tree.lookup path).map fun content ↦ parseSkillPermissive fromStr contentHash content path

structure SkillIndex where
  byHash : KeyedMap String LoadedDocument
  byName : KeyedMap String String

namespace SkillIndex

def all (index : SkillIndex) : List SkillDocument :=
  index.byHash.values.map LoadedDocument.toSkillDocument

def getByName (index : SkillIndex) (name : String) : Option LoadedDocument :=
  (index.byName.lookup name).bind index.byHash.lookup

end SkillIndex

def SkillIndex.insert (index : SkillIndex) (doc : LoadedDocument) : SkillIndex :=
  ⟨index.byHash.insert doc.contentHash doc, index.byName.insert doc.name doc.contentHash⟩

def buildIndex (skills : List LoadedDocument) : SkillIndex :=
  skills.foldl SkillIndex.insert ⟨∅, ∅⟩

def reloadSkills (tree : FileTree) (skillsDir workspaceDir : Path) (extraPatterns : List String) :
    SkillIndex :=
  buildIndex (loadSkills fromStr contentHash tree skillsDir ++
    loadConventions fromStr contentHash tree workspaceDir extraPatterns)

end Loader

section Justified

variable (t : CaseTable) (userMessage : String)

def Occurs (word : String) : Prop :=
  contains (t.toLowercase userMessage) (t.toLowercase word) = true

def Invoked (skill : SkillDocument) : Prop :=
  ∃ trigger, skill.trigger = some trigger ∧ trigger ≠ "" ∧ Occurs t userMessage trigger

def Matched (skill : SkillDocument) : Prop :=
  skill.trigger = none ∧
    ∃ word ∈ skill.name :: skill.tags, word ≠ "" ∧ Occurs t userMessage word

/-- A skill is selected by its trigger, or where none is by its name or a tag; none is selected
where none could be. -/
def Justified (skills : List SkillDocument) : Option SkillDocument → Prop
  | some skill => skill ∈ skills ∧ (Invoked t userMessage skill ∨
      (∀ s ∈ skills, ∀ trigger, s.trigger = some trigger → ¬ Occurs t userMessage trigger) ∧
        Matched t userMessage skill)
  | none => ∀ s ∈ skills, ¬ Invoked t userMessage s ∧ ¬ Matched t userMessage s

/-- No trigger is empty, and where none occurs, neither is a name or a tag of a skill without
trigger, unless one of the others occurs. -/
structure WordsFit (skills : List SkillDocument) : Prop where
  triggers : ∀ s ∈ skills, s.trigger ≠ some ""
  words : (∀ s ∈ skills, ¬ Invoked t userMessage s) → ∀ s ∈ skills, s.trigger = none →
    "" ∈ s.name :: s.tags → Matched t userMessage s

end Justified

section Selection

variable {t : CaseTable} {userMessage : String} {skills order : List SkillDocument}
  {skill : SkillDocument}

theorem occurs_empty (t : CaseTable) (userMessage : String) : Occurs t userMessage "" := by
  have hlower : t.toLowercase "" = "" := rfl
  rw [Occurs, hlower, contains]
  cases (t.toLowercase userMessage).toList <;> rfl

theorem triggered_iff : triggered t.toLowercase (t.toLowercase userMessage) skill = true ↔
    ∃ trigger, skill.trigger = some trigger ∧ Occurs t userMessage trigger := by
  simp [triggered, Option.any_eq_true, Occurs]

theorem named_iff : named t.toLowercase (t.toLowercase userMessage) skill = true ↔
    skill.trigger = none ∧ ∃ word ∈ skill.name :: skill.tags, Occurs t userMessage word := by
  rw [named, Bool.and_eq_true, Option.isNone_iff_eq_none, List.any_eq_true]
  rfl

theorem Invoked.triggered (h : Invoked t userMessage skill) :
    triggered t.toLowercase (t.toLowercase userMessage) skill = true := by
  obtain ⟨trigger, htrigger, -, hoccurs⟩ := h
  exact triggered_iff.mpr ⟨trigger, htrigger, hoccurs⟩

theorem Matched.named (h : Matched t userMessage skill) :
    named t.toLowercase (t.toLowercase userMessage) skill = true := by
  obtain ⟨hnone, word, hword, -, hoccurs⟩ := h
  exact named_iff.mpr ⟨hnone, word, hword, hoccurs⟩

theorem WordsFit.justified (h : WordsFit t userMessage skills) :
    Justified t userMessage skills (selectSkill t.toLowercase userMessage skills) := by
  rw [selectSkill]
  cases hfirst : skills.find? (triggered t.toLowercase (t.toLowercase userMessage)) with
  | some skill =>
    have hmem := List.mem_of_find?_eq_some hfirst
    obtain ⟨trigger, htrigger, hoccurs⟩ := triggered_iff.mp (List.find?_some hfirst)
    refine ⟨hmem, .inl ⟨trigger, htrigger, fun hempty ↦ ?_, hoccurs⟩⟩
    exact h.triggers skill hmem (hempty ▸ htrigger)
  | none =>
    have hno : ∀ s ∈ skills, ∀ trigger, s.trigger = some trigger →
        ¬ Occurs t userMessage trigger := fun s hs trigger htrigger hoccurs ↦
      List.find?_eq_none.mp hfirst s hs (triggered_iff.mpr ⟨trigger, htrigger, hoccurs⟩)
    have hquiet : ∀ s ∈ skills, ¬ Invoked t userMessage s := fun s hs hinvoked ↦
      List.find?_eq_none.mp hfirst s hs hinvoked.triggered
    rw [Option.none_or]
    cases hsecond : skills.find? (named t.toLowercase (t.toLowercase userMessage)) with
    | some skill =>
      have hmem := List.mem_of_find?_eq_some hsecond
      obtain ⟨hnone, word, hword, hoccurs⟩ := named_iff.mp (List.find?_some hsecond)
      refine ⟨hmem, .inr ⟨hno, ?_⟩⟩
      by_cases hempty : word = ""
      · exact h.words hquiet skill hmem hnone (hempty ▸ hword)
      · exact ⟨hnone, word, hword, hempty, hoccurs⟩
    | none =>
      exact fun s hs ↦ ⟨hquiet s hs, fun hmatched ↦
        List.find?_eq_none.mp hsecond s hs hmatched.named⟩

theorem WordsFit.of_perm (h : WordsFit t userMessage skills) (horder : order.Perm skills) :
    WordsFit t userMessage order where
  triggers s hs := h.triggers s (horder.mem_iff.mp hs)
  words hquiet s hs := h.words (fun s' hs' ↦ hquiet s' (horder.mem_iff.mpr hs')) s
    (horder.mem_iff.mp hs)

/-- Whatever the order is, the selection is justified, just if the words fit. -/
theorem forall_perm_justified_iff : (∀ order : List SkillDocument, order.Perm skills →
    Justified t userMessage order (selectSkill t.toLowercase userMessage order)) ↔
      WordsFit t userMessage skills := by
  refine ⟨fun h ↦ ?_, fun h order horder ↦ (h.of_perm horder).justified⟩
  -- a skill that is found for an empty word may come first
  have hfirst : ∀ s ∈ skills, Justified t userMessage (s :: skills.erase s)
      (selectSkill t.toLowercase userMessage (s :: skills.erase s)) := fun s hs ↦
    h _ (List.perm_cons_erase hs).symm
  have htriggers : ∀ s ∈ skills, s.trigger ≠ some "" := by
    intro s hs hempty
    have hfound := triggered_iff.mpr ⟨"", hempty, occurs_empty t userMessage⟩
    have hjust := hfirst s hs
    rw [selectSkill, List.find?_cons_of_pos hfound, Option.some_or] at hjust
    obtain ⟨-, ⟨trigger, htrigger, hne, -⟩ | ⟨-, hnone, -⟩⟩ := hjust
    · rw [hempty] at htrigger
      exact hne (Option.some.inj htrigger).symm
    · rw [hempty] at hnone
      cases hnone
  refine ⟨htriggers, fun hquiet s hs hnone hempty ↦ ?_⟩
  have hno : ∀ s' ∈ s :: skills.erase s,
      ¬ triggered t.toLowercase (t.toLowercase userMessage) s' = true := by
    intro s' hs' hfound
    have hmem : s' ∈ skills := (List.perm_cons_erase hs).mem_iff.mpr hs'
    obtain ⟨trigger, htrigger, hoccurs⟩ := triggered_iff.mp hfound
    by_cases hne : trigger = ""
    · exact htriggers s' hmem (hne ▸ htrigger)
    · exact hquiet s' hmem ⟨trigger, htrigger, hne, hoccurs⟩
  have hfound := named_iff.mpr ⟨hnone, "", hempty, occurs_empty t userMessage⟩
  have hjust := hfirst s hs
  rw [selectSkill, List.find?_eq_none.mpr hno, Option.none_or,
    List.find?_cons_of_pos hfound] at hjust
  obtain ⟨-, hinvoked | ⟨-, hmatched⟩⟩ := hjust
  · exact absurd hinvoked (hquiet s hs)
  · exact hmatched

theorem not_occurs_in_empty {word : String} (hword : word ≠ "") : ¬ Occurs t "" word := by
  have hlower : t.toLowercase "" = "" := rfl
  rw [Occurs, hlower]
  intro hoccurs
  cases hchars : word.toList with
  | nil => exact hword (String.toList_eq_nil_iff.mp hchars)
  | cons c cs =>
    have hne : t.lowerChars [] (c :: cs) ≠ [] := by
      rw [CaseTable.lowerChars]
      refine List.append_ne_nil_of_left_ne_nil ?_ _
      split
      · exact List.cons_ne_nil _ _
      · exact t.lower_ne_nil c
    obtain ⟨d, ds, hds⟩ := List.exists_cons_of_ne_nil hne
    have htext : (t.toLowercase word).toList = d :: ds := by
      rw [CaseTable.toLowercase, String.toList_ofList, hchars, hds]
    rw [contains, htext] at hoccurs
    exact absurd hoccurs (by simp)

theorem forall_wordsFit_iff : (∀ userMessage, WordsFit t userMessage skills) ↔
    ∀ s ∈ skills, s.trigger ≠ some "" ∧ (s.trigger = none → "" ∉ s.name :: s.tags) := by
  constructor
  · intro h s hs
    refine ⟨(h "").triggers s hs, fun hnone hempty ↦ ?_⟩
    have hquiet : ∀ s' ∈ skills, ¬ Invoked t "" s' := by
      intro s' _ hinvoked
      obtain ⟨trigger, -, hne, hoccurs⟩ := hinvoked
      exact not_occurs_in_empty hne hoccurs
    obtain ⟨-, word, -, hne, hoccurs⟩ := (h "").words hquiet s hs hnone hempty
    exact not_occurs_in_empty hne hoccurs
  · intro h userMessage
    exact ⟨fun s hs ↦ (h s hs).1, fun _ s hs hnone hempty ↦ absurd hempty ((h s hs).2 hnone)⟩

end Selection

section Index

variable (t : CaseTable) (fromStr : String → Option Frontmatter) (contentHash : String → String)

theorem parseSkillStrict_eq_some {content : String} {doc : LoadedDocument}
    (h : parseSkillStrict fromStr contentHash content = some doc) :
    doc.name ≠ "" ∧ doc.description ≠ "" ∧ doc.contentHash = contentHash content ∧
      ∃ yaml, splitFrontmatter content = (some yaml, doc.instructions) := by
  rw [parseSkillStrict] at h
  split at h
  case h_1 => cases h
  case h_2 yaml body hsplit =>
    dsimp only at h
    split at h
    case h_2 => cases h
    case h_1 name description hname hdescription =>
      have hne := (Option.filter_eq_some_iff.mp hname).2
      have hne' := (Option.filter_eq_some_iff.mp hdescription).2
      rw [← Option.some.inj h]
      exact ⟨of_decide_eq_true hne, of_decide_eq_true hne', rfl, yaml, hsplit⟩

/-- A hash that is found under a name has a document, and this is one of those that were loaded. -/
structure SkillIndex.Sound (index : SkillIndex) (skills : List LoadedDocument) : Prop where
  byName : ∀ name, index.byName.lookup name ≠ none → index.getByName name ≠ none
  byHash : ∀ hash doc, index.byHash.lookup hash = some doc → doc ∈ skills

theorem SkillIndex.Sound.insert {index : SkillIndex} {skills : List LoadedDocument}
    (h : index.Sound skills) (doc : LoadedDocument) :
    (index.insert doc).Sound (skills ++ [doc]) where
  byName name hname := by
    rw [getByName, SkillIndex.insert]
    by_cases heq : name = doc.name
    · rw [heq, AList.lookup_insert, Option.bind_some, AList.lookup_insert]
      exact Option.some_ne_none doc
    · rw [SkillIndex.insert, AList.lookup_insert_ne heq] at hname
      rw [AList.lookup_insert_ne heq]
      have hfound := h.byName name hname
      obtain ⟨hash, hhash⟩ := Option.ne_none_iff_exists'.mp hname
      rw [getByName, hhash, Option.bind_some] at hfound
      rw [hhash, Option.bind_some]
      by_cases hsame : hash = doc.contentHash
      · rw [hsame, AList.lookup_insert]
        exact Option.some_ne_none doc
      · rw [AList.lookup_insert_ne hsame]
        exact hfound
  byHash hash doc' hdoc := by
    rw [SkillIndex.insert] at hdoc
    by_cases hsame : hash = doc.contentHash
    · rw [hsame, AList.lookup_insert] at hdoc
      rw [← Option.some.inj hdoc]
      exact List.mem_append_right _ List.mem_cons_self
    · rw [AList.lookup_insert_ne hsame] at hdoc
      exact List.mem_append_left _ (h.byHash hash doc' hdoc)

theorem sound_buildIndex (skills : List LoadedDocument) : (buildIndex skills).Sound skills := by
  have hfold : ∀ (rest : List LoadedDocument) (index : SkillIndex) (seen : List LoadedDocument),
      index.Sound seen → (rest.foldl SkillIndex.insert index).Sound (seen ++ rest) := by
    intro rest
    induction rest with
    | nil =>
      intro index seen h
      rwa [List.append_nil]
    | cons doc rest ih =>
      intro index seen h
      rw [List.append_cons]
      exact ih _ _ (h.insert doc)
  refine hfold skills ⟨∅, ∅⟩ [] ⟨fun name hname ↦ absurd rfl hname, fun hash doc hdoc ↦ ?_⟩
  cases hdoc

theorem justified_of_loaded {skills : List LoadedDocument}
    (h : ∀ doc ∈ skills, doc.trigger ≠ some "" ∧ (doc.trigger = none → "" ∉ doc.name :: doc.tags))
    {order : List SkillDocument} (horder : order.Perm (buildIndex skills).all)
    (userMessage : String) :
    Justified t userMessage order (selectSkill t.toLowercase userMessage order) := by
  have hall : ∀ s ∈ (buildIndex skills).all, s.trigger ≠ some "" ∧
      (s.trigger = none → "" ∉ s.name :: s.tags) := by
    intro s hs
    obtain ⟨doc, hdoc, rfl⟩ := List.mem_map.mp hs
    obtain ⟨⟨hash, doc'⟩, hentry, heq⟩ := List.mem_map.mp hdoc
    have hlookup := KeyedMap.lookup_eq_some_iff.mpr hentry
    rw [← heq]
    exact h doc' ((sound_buildIndex skills).byHash hash doc' hlookup)
  exact ((forall_wordsFit_iff.mpr hall userMessage).of_perm horder).justified

/-- The skills of an index may be passed through in any order. -/
theorem selection_justified_iff (tree : FileTree) (skillsDir workspaceDir : Path)
    (extraPatterns : List String) (userMessage : String) :
    (∀ order : List SkillDocument,
      order.Perm (reloadSkills fromStr contentHash tree skillsDir workspaceDir extraPatterns).all →
        Justified t userMessage order (selectSkill t.toLowercase userMessage order)) ↔
      WordsFit t userMessage
        (reloadSkills fromStr contentHash tree skillsDir workspaceDir extraPatterns).all :=
  forall_perm_justified_iff

section Example

def emptyTagsFile : String := "---\nname: w\ndescription: d\ntags: []\n---\n"

def emptyTagsJson : String := "\x7b\"name\":\"w\",\"description\":\"d\",\"tags\":[\"\"]\x7d"

def emptyTagsFromStr (json : String) : Option Frontmatter :=
  if json = emptyTagsJson then some ⟨some "w", some "d", none, [""], none, none, []⟩ else none

def emptyTagsTree : FileTree := (∅ : FileTree).insert [".skills", "w.skill.md"] emptyTagsFile

/-- An empty list of tags is one empty tag, which every message has in it. -/
theorem not_justified_of_empty_tags : ¬ ∀ order : List SkillDocument,
    order.Perm (reloadSkills emptyTagsFromStr (fun _ ↦ "218a4a45fce597a8") emptyTagsTree
      [".skills"] [] []).all →
    Justified .ascii "hello" order (selectSkill CaseTable.ascii.toLowercase "hello" order) := by
  have hindex : (reloadSkills emptyTagsFromStr (fun _ ↦ "218a4a45fce597a8") emptyTagsTree
      [".skills"] [] []).all = [⟨"w", [""], none, none, [], ""⟩] := by
    decide
  rw [hindex, forall_perm_justified_iff]
  intro h
  have hquiet : ∀ s ∈ [(⟨"w", [""], none, none, [], ""⟩ : SkillDocument)],
      ¬ Invoked .ascii "hello" s := by
    intro s hs hinvoked
    obtain ⟨trigger, htrigger, -⟩ := hinvoked
    rw [List.mem_singleton.mp hs] at htrigger
    cases htrigger
  obtain ⟨-, word, hword, hne, hoccurs⟩ :=
    h.words hquiet _ List.mem_cons_self rfl (List.mem_cons_of_mem _ List.mem_cons_self)
  rcases List.mem_pair.mp hword with rfl | rfl
  · have hno : contains (CaseTable.ascii.toLowercase "hello") (CaseTable.ascii.toLowercase "w") =
        false := by
      decide
    rw [Occurs, hno] at hoccurs
    cases hoccurs
  · exact hne rfl

end Example

end Index

end AdkGateway.SkillLoader
