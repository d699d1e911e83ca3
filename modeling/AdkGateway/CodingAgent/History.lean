import AdkGateway.Foundation.KeyedMap
import AdkGateway.Foundation.Ranking
import AdkGateway.Foundation.Time
import Mathlib.Data.String.Basic
import Mathlib.Order.Defs.LinearOrder

namespace AdkGateway.CodingAgent.History

open Foundation Foundation.Ranking

variable {Trigger State Path : Type}

structure TaskHistoryEntry (Trigger State Path : Type) where
  taskId : String
  agentId : String
  description : String
  trigger : Trigger
  state : State
  workspace : Path
  createdAt : DateTime

def maxEntriesPerAgent : ℕ := 200

structure TaskHistory (Trigger State Path : Type) where
  entries : KeyedMap String (List (TaskHistoryEntry Trigger State Path))

namespace TaskHistory

def new : TaskHistory Trigger State Path := ⟨∅⟩

def record (history : TaskHistory Trigger State Path)
    (entry : TaskHistoryEntry Trigger State Path) : TaskHistory Trigger State Path :=
  let agentEntries := (history.entries.lookup entry.agentId).getD [] ++ [entry]
  ⟨history.entries.insert entry.agentId
    (agentEntries.drop (agentEntries.length - maxEntriesPerAgent))⟩

/-- The sort is stable: of two entries of one time, the one recorded later stays first. -/
def getRecent (history : TaskHistory Trigger State Path) (agentId : String) (limit : ℕ) :
    List (TaskHistoryEntry Trigger State Path) :=
  match history.entries.lookup agentId with
  | none => []
  | some entries =>
    (entries.reverse.take (min limit entries.length)).mergeSort (byKey (·.createdAt))

end TaskHistory

structure Row where
  taskId : String
  agentId : String
  description : String
  triggerJson : String
  stateJson : String
  workspace : String
  createdAt : String
  deriving DecidableEq

structure Codec (Trigger State Path : Type) where
  triggerJson : Trigger → String
  readTrigger : String → Option Trigger
  stateJson : State → String
  readState : String → Option State
  display : Path → String
  pathBuf : String → Path
  toRfc3339 : DateTime → String
  parseTime : String → Option DateTime

namespace Codec

variable (c : Codec Trigger State Path)

def row (entry : TaskHistoryEntry Trigger State Path) : Row where
  taskId := entry.taskId
  agentId := entry.agentId
  description := entry.description
  triggerJson := c.triggerJson entry.trigger
  stateJson := c.stateJson entry.state
  workspace := c.display entry.workspace
  createdAt := c.toRfc3339 entry.createdAt

def readRow (row : Row) : Option (TaskHistoryEntry Trigger State Path) := do
  let trigger ← c.readTrigger row.triggerJson
  let state ← c.readState row.stateJson
  let createdAt ← c.parseTime row.createdAt
  return ⟨row.taskId, row.agentId, row.description, trigger, state, c.pathBuf row.workspace, createdAt⟩

structure ReadsBack (entry : TaskHistoryEntry Trigger State Path) : Prop where
  trigger : c.readTrigger (c.triggerJson entry.trigger) = some entry.trigger
  state : c.readState (c.stateJson entry.state) = some entry.state
  workspace : c.pathBuf (c.display entry.workspace) = entry.workspace
  createdAt : c.parseTime (c.toRfc3339 entry.createdAt) = some entry.createdAt

end Codec

structure PersistentTaskHistory where
  rows : List Row

namespace PersistentTaskHistory

variable (c : Codec Trigger State Path)

def openEmpty : PersistentTaskHistory := ⟨[]⟩

/-- `INSERT OR REPLACE`: the row with the same task goes. -/
def record (db : PersistentTaskHistory) (entry : TaskHistoryEntry Trigger State Path) :
    PersistentTaskHistory :=
  ⟨db.rows.filter (·.taskId ≠ entry.taskId) ++ [c.row entry]⟩

/-- `LIMIT` of a number that is converted to a signed one: a negative one is no limit. -/
def limited {α : Type} (limit : ℕ) (rows : List α) : List α :=
  if limit < 2 ^ 63 then rows.take limit else rows

/-- `orderBy` puts the rows in an order that the query allows. -/
def getRecent (orderBy : List Row → List Row) (db : PersistentTaskHistory) (agentId : String)
    (limit : ℕ) : List (TaskHistoryEntry Trigger State Path) :=
  (limited limit (orderBy (db.rows.filter (·.agentId = agentId)))).filterMap c.readRow

/-- `ORDER BY created_at DESC`, on texts; it leaves the order of equal ones open. -/
def IsOrderBy (orderBy : List Row → List Row) : Prop :=
  ∀ rows, Ranked (·.createdAt) rows (orderBy rows)

end PersistentTaskHistory

variable {entries : List (TaskHistoryEntry Trigger State Path)}

def mine (agentId : String) (entries : List (TaskHistoryEntry Trigger State Path)) :
    List (TaskHistoryEntry Trigger State Path) :=
  entries.filter (·.agentId = agentId)

namespace TaskHistory

theorem getRecent_eq (history : TaskHistory Trigger State Path) (agentId : String) (limit : ℕ) :
    history.getRecent agentId limit =
      (((history.entries.lookup agentId).getD []).reverse.take limit).mergeSort
        (byKey (·.createdAt)) := by
  rw [getRecent]
  cases history.entries.lookup agentId with
  | none => simp
  | some stored =>
    have hlength : stored.length = stored.reverse.length := List.length_reverse.symm
    rw [Option.getD_some]
    simp only [hlength, ← List.take_eq_take_min]

theorem reverse_drop_length_sub {α : Type} (l : List α) (n : ℕ) :
    (l.drop (l.length - n)).reverse = l.reverse.take n := by
  rw [List.reverse_drop, List.take_eq_take_iff, List.length_reverse]
  omega

theorem reverse_lookup_records (agentId : String) :
    (((entries.foldl record new).entries.lookup agentId).getD []).reverse =
      (mine agentId entries).reverse.take maxEntriesPerAgent := by
  induction entries using List.reverseRecOn with
  | nil => rfl
  | append_singleton entries entry ih =>
    rw [List.foldl_append, List.foldl_cons, List.foldl_nil, record, KeyedMap.lookup_insert_if,
      mine, List.filter_append]
    by_cases h : agentId = entry.agentId
    · subst h
      rw [if_pos rfl, Option.getD_some, reverse_drop_length_sub, List.reverse_append, ih]
      simp [mine, List.take_succ_cons, maxEntriesPerAgent, List.take_take]
    · rw [if_neg h, ih]
      simp [mine, Ne.symm h]

theorem getRecent_records (agentId : String) (limit : ℕ) :
    (entries.foldl record new).getRecent agentId limit =
      ((mine agentId entries).reverse.take (min limit maxEntriesPerAgent)).mergeSort
        (byKey (·.createdAt)) := by
  rw [getRecent_eq, reverse_lookup_records, List.take_take]

end TaskHistory

namespace PersistentTaskHistory

variable {c : Codec Trigger State Path}

theorem rows_records (hnodup : (entries.map (·.taskId)).Nodup) :
    (entries.foldl (record c) openEmpty).rows = entries.map c.row := by
  induction entries using List.reverseRecOn with
  | nil => rfl
  | append_singleton entries entry ih =>
    rw [List.map_append, List.nodup_append] at hnodup
    have hkeep : (entries.map c.row).filter (·.taskId ≠ entry.taskId) = entries.map c.row := by
      rw [List.filter_eq_self]
      intro row hrow
      obtain ⟨other, hother, rfl⟩ := List.mem_map.mp hrow
      have hne := hnodup.2.2 other.taskId (List.mem_map_of_mem hother) entry.taskId (by simp)
      exact decide_eq_true hne
    rw [List.foldl_append, List.foldl_cons, List.foldl_nil, record, ih hnodup.1, hkeep,
      List.map_append, List.map_singleton]

theorem getRecent_records (orderBy : List Row → List Row)
    (hnodup : (entries.map (·.taskId)).Nodup) (agentId : String) (limit : ℕ) :
    getRecent c orderBy (entries.foldl (record c) openEmpty) agentId limit =
      (limited limit (orderBy ((mine agentId entries).map c.row))).filterMap c.readRow := by
  have hfilter : (entries.map c.row).filter (·.agentId = agentId) =
      (mine agentId entries).map c.row := by
    rw [List.filter_map]
    rfl
  rw [getRecent, rows_records hnodup, hfilter]

end PersistentTaskHistory

namespace Codec

variable {c : Codec Trigger State Path} {entry : TaskHistoryEntry Trigger State Path}

theorem readRow_row_iff : c.readRow (c.row entry) = some entry ↔ c.ReadsBack entry := by
  constructor
  · intro h
    simp only [readRow, row, Option.bind_eq_bind, Option.bind_eq_some_iff] at h
    obtain ⟨trigger, htrigger, state, hstate, createdAt, htime, heq⟩ := h
    have hentry := Option.some.inj heq
    have hworkspace : c.pathBuf (c.display entry.workspace) = entry.workspace :=
      congrArg (·.workspace) hentry
    obtain rfl : trigger = entry.trigger := congrArg (·.trigger) hentry
    obtain rfl : state = entry.state := congrArg (·.state) hentry
    obtain rfl : createdAt = entry.createdAt := congrArg (·.createdAt) hentry
    exact ⟨htrigger, hstate, hworkspace, htime⟩
  · intro h
    simp [readRow, row, h.trigger, h.state, h.workspace, h.createdAt]

theorem taskId_of_readRow {row : Row} (h : c.readRow row = some entry) :
    entry.taskId = row.taskId := by
  simp only [readRow, Option.bind_eq_bind, Option.bind_eq_some_iff] at h
  obtain ⟨trigger, -, state, -, createdAt, -, heq⟩ := h
  cases heq
  rfl

theorem map_taskId_filterMap {rows : List Row}
    (h : (rows.filterMap c.readRow).length = rows.length) :
    (rows.filterMap c.readRow).map (·.taskId) = rows.map (·.taskId) := by
  rw [List.filterMap_length_eq_length] at h
  induction rows with
  | nil => rfl
  | cons row rows ih =>
    obtain ⟨entry, hentry⟩ := Option.isSome_iff_exists.mp (h row List.mem_cons_self)
    rw [List.filterMap_cons_some hentry, List.map_cons, List.map_cons, taskId_of_readRow hentry,
      ih fun row' hrow' ↦ h row' (List.mem_cons_of_mem row hrow')]

end Codec

/-- Two lists with elements of a third have the same elements, where they have the same values of
something in which its elements differ. -/
theorem eq_of_map_eq {α β : Type} {f : α → β} {l xs ys : List α} (hl : (l.map f).Nodup)
    (hxs : ∀ x ∈ xs, x ∈ l) (hys : ∀ y ∈ ys, y ∈ l) (h : xs.map f = ys.map f) : xs = ys := by
  induction xs generalizing ys with
  | nil => exact (List.map_eq_nil_iff.mp h.symm).symm
  | cons x xs ih =>
    cases ys with
    | nil => cases h
    | cons y ys =>
      obtain ⟨hhead, htail⟩ := List.cons.inj h
      rw [List.inj_on_of_nodup_map hl (hxs x List.mem_cons_self) (hys y List.mem_cons_self) hhead,
        ih (fun z hz ↦ hxs z (List.mem_cons_of_mem x hz))
          (fun z hz ↦ hys z (List.mem_cons_of_mem y hz)) htail]

section Agreement

variable (c : Codec Trigger State Path) (entries : List (TaskHistoryEntry Trigger State Path))
  (agentId : String) (limit : ℕ)

/-- Both sinks give one list, whatever order the query takes for equal texts, and it is of the
newest entries, newest first. -/
structure SinksAgree : Prop where
  same : ∀ orderBy, PersistentTaskHistory.IsOrderBy orderBy →
    (entries.foldl TaskHistory.record .new).getRecent agentId limit =
      PersistentTaskHistory.getRecent c orderBy
        (entries.foldl (PersistentTaskHistory.record c) .openEmpty) agentId limit
  newest : Top (·.createdAt) limit (mine agentId entries)
    ((entries.foldl TaskHistory.record .new).getRecent agentId limit)

def Older (e f : TaskHistoryEntry Trigger State Path) : Prop :=
  e.createdAt < f.createdAt ∧ c.toRfc3339 e.createdAt < c.toRfc3339 f.createdAt

/-- The cap of the list in memory is not in the way; the last entries that are recorded are newer
than all before them and are all of different times; and they are read from disk as they were. -/
structure RecordedInOrder : Prop where
  cap : limit ≤ maxEntriesPerAgent ∨ (mine agentId entries).length ≤ maxEntriesPerAgent
  newer : ∀ e ∈ (mine agentId entries).rtake limit, ∀ f ∈ (mine agentId entries).rdrop limit,
    Older c f e
  apart : ((mine agentId entries).rtake limit).Pairwise fun e f ↦ Older c e f ∨ Older c f e
  readsBack : ∀ e ∈ (mine agentId entries).rtake limit, c.ReadsBack e

end Agreement

section Proof

variable {c : Codec Trigger State Path} {agentId : String} {limit : ℕ}

theorem limited_eq_take {α : Type} {rows : List α}
    (hcap : limit ≤ maxEntriesPerAgent ∨ rows.length ≤ maxEntriesPerAgent) :
    PersistentTaskHistory.limited limit rows = rows.take limit := by
  rw [PersistentTaskHistory.limited]
  split
  case isTrue => rfl
  case isFalse h =>
    simp only [maxEntriesPerAgent] at hcap
    rw [List.take_of_length_le (by omega)]

/-- Below the cap, the sink in memory sorts the last entries recorded. -/
theorem getRecent_perm_rtake
    (hcap : limit ≤ maxEntriesPerAgent ∨ (mine agentId entries).length ≤ maxEntriesPerAgent) :
    ((entries.foldl TaskHistory.record .new).getRecent agentId limit).Perm
      ((mine agentId entries).rtake limit) := by
  have htake : (mine agentId entries).reverse.take (min limit maxEntriesPerAgent) =
      (mine agentId entries).reverse.take limit := by
    rw [List.take_eq_take_iff, List.length_reverse]
    omega
  rw [TaskHistory.getRecent_records, htake, List.rtake_eq_reverse_take_reverse]
  exact (List.mergeSort_perm _ _).trans (List.reverse_perm _).symm

theorem rtake_append_rdrop_perm {α : Type} (l : List α) (n : ℕ) :
    (l.rtake n ++ l.rdrop n).Perm l := by
  refine List.perm_append_comm.trans (List.Perm.of_eq ?_)
  exact List.take_append_drop _ _

theorem sorted_getRecent :
    ((entries.foldl TaskHistory.record .new).getRecent agentId limit).Pairwise
      fun e f ↦ f.createdAt ≤ e.createdAt := by
  rw [TaskHistory.getRecent_records]
  exact (ranked_mergeSort TaskHistoryEntry.createdAt _).sorted

/-- What is given from memory then goes back strictly in time. -/
theorem RecordedInOrder.pairwise_older (h : RecordedInOrder c entries agentId limit) :
    ((entries.foldl TaskHistory.record .new).getRecent agentId limit).Pairwise
      fun e f ↦ Older c f e := by
  have hapart := (getRecent_perm_rtake h.cap).symm.pairwise h.apart fun hef ↦ hef.symm
  refine (hapart.and sorted_getRecent).imp fun hef ↦ ?_
  exact hef.1.resolve_left fun hless ↦ absurd hef.2 (not_le.mpr hless.1)

theorem top_getRecent (h : RecordedInOrder c entries agentId limit) :
    Top (·.createdAt) limit (mine agentId entries)
      ((entries.foldl TaskHistory.record .new).getRecent agentId limit) where
  length := by
    rw [(getRecent_perm_rtake h.cap).length_eq, List.rtake_eq_reverse_take_reverse]
    simp
  sorted := sorted_getRecent
  rest := by
    have hperm := getRecent_perm_rtake h.cap
    refine ⟨(mine agentId entries).rdrop limit,
      (hperm.append_right _).trans (rtake_append_rdrop_perm _ limit), fun e he f hf ↦ ?_⟩
    exact (h.newer e (hperm.mem_iff.mp he) f hf).1.le

theorem strictTop_rows (h : RecordedInOrder c entries agentId limit) :
    StrictTop (·.createdAt) limit ((mine agentId entries).map c.row)
      (((entries.foldl TaskHistory.record .new).getRecent agentId limit).map c.row) where
  length := by
    rw [List.length_map, List.length_map, (top_getRecent h).length]
  sorted := List.pairwise_map.mpr (h.pairwise_older.imp fun hef ↦ hef.2)
  rest := by
    have hperm := getRecent_perm_rtake h.cap
    refine ⟨((mine agentId entries).rdrop limit).map c.row, ?_, ?_⟩
    · rw [← List.map_append]
      exact ((hperm.append_right _).trans (rtake_append_rdrop_perm _ limit)).map _
    · intro a ha b hb
      obtain ⟨e, he, rfl⟩ := List.mem_map.mp ha
      obtain ⟨f, hf, rfl⟩ := List.mem_map.mp hb
      exact (h.newer e (hperm.mem_iff.mp he) f hf).2

theorem filterMap_readRow {es : List (TaskHistoryEntry Trigger State Path)}
    (h : ∀ e ∈ es, c.ReadsBack e) : (es.map c.row).filterMap c.readRow = es := by
  induction es with
  | nil => rfl
  | cons e es ih =>
    obtain ⟨he, hes⟩ := List.forall_mem_cons.mp h
    rw [List.map_cons, List.filterMap_cons_some (Codec.readRow_row_iff.mpr he), ih hes]

theorem readsBack_of_filterMap {es : List (TaskHistoryEntry Trigger State Path)}
    (h : (es.map c.row).filterMap c.readRow = es) : ∀ e ∈ es, c.ReadsBack e := by
  induction es with
  | nil => simp
  | cons e es ih =>
    rw [List.map_cons] at h
    cases hread : c.readRow (c.row e) with
    | none =>
      rw [List.filterMap_cons_none hread] at h
      have hle := List.length_filterMap_le c.readRow (es.map c.row)
      rw [h, List.length_map, List.length_cons] at hle
      omega
    | some e' =>
      rw [List.filterMap_cons_some hread, List.cons.injEq] at h
      rw [h.1] at hread
      rw [List.forall_mem_cons]
      exact ⟨Codec.readRow_row_iff.mp hread, ih h.2⟩

theorem sinksAgree_of_recordedInOrder (hnodup : (entries.map (·.taskId)).Nodup)
    (h : RecordedInOrder c entries agentId limit) : SinksAgree c entries agentId limit where
  same orderBy horder := by
    have hcap : limit ≤ maxEntriesPerAgent ∨
        (orderBy ((mine agentId entries).map c.row)).length ≤ maxEntriesPerAgent := by
      rw [(horder _).perm.length_eq, List.length_map]
      exact h.cap
    rw [PersistentTaskHistory.getRecent_records orderBy hnodup, limited_eq_take hcap,
      (strictTop_rows h).take_eq (horder _), filterMap_readRow]
    exact fun e he ↦ h.readsBack e ((getRecent_perm_rtake h.cap).mem_iff.mp he)
  newest := top_getRecent h

theorem exists_isOrderBy {rows ranked : List Row} (h : Ranked (·.createdAt) rows ranked) :
    ∃ orderBy, PersistentTaskHistory.IsOrderBy orderBy ∧ orderBy rows = ranked := by
  refine ⟨fun rows' ↦ if rows' = rows then ranked else rows'.mergeSort (byKey (·.createdAt)),
    fun rows' ↦ ?_, if_pos rfl⟩
  dsimp only
  split
  case isTrue heq => exact heq ▸ h
  case isFalse => exact ranked_mergeSort _ _

theorem cap_of_sinksAgree (h : SinksAgree c entries agentId limit) :
    limit ≤ maxEntriesPerAgent ∨ (mine agentId entries).length ≤ maxEntriesPerAgent := by
  have hlength := h.newest.length
  rw [TaskHistory.getRecent_records, List.length_mergeSort, List.length_take,
    List.length_reverse] at hlength
  omega

theorem nodup_taskIds_mine (c : Codec Trigger State Path) (agentId : String)
    (hnodup : (entries.map (·.taskId)).Nodup) :
    (((mine agentId entries).map c.row).map (·.taskId)).Nodup := by
  rw [List.map_map]
  exact hnodup.sublist (List.filter_sublist.map _)

/-- Where the sinks agree, all orders of the rows begin with those of the entries in memory. -/
theorem take_eq_of_sinksAgree (hnodup : (entries.map (·.taskId)).Nodup)
    (h : SinksAgree c entries agentId limit) {ranked : List Row}
    (hranked : Ranked (·.createdAt) ((mine agentId entries).map c.row) ranked) :
    (ranked.take limit).filterMap c.readRow =
        (entries.foldl TaskHistory.record .new).getRecent agentId limit ∧
      ranked.take limit =
        ((entries.foldl TaskHistory.record .new).getRecent agentId limit).map c.row := by
  obtain ⟨orderBy, horder, heq⟩ := exists_isOrderBy hranked
  have hcap : limit ≤ maxEntriesPerAgent ∨ ranked.length ≤ maxEntriesPerAgent := by
    rw [hranked.perm.length_eq, List.length_map]
    exact cap_of_sinksAgree h
  have hread := h.same orderBy horder
  rw [PersistentTaskHistory.getRecent_records orderBy hnodup, heq, limited_eq_take hcap] at hread
  refine ⟨hread.symm, ?_⟩
  have hlength : ((ranked.take limit).filterMap c.readRow).length = (ranked.take limit).length := by
    rw [← hread, h.newest.length, List.length_take, hranked.perm.length_eq, List.length_map]
  have hids := Codec.map_taskId_filterMap hlength
  rw [← hread] at hids
  refine eq_of_map_eq (nodup_taskIds_mine c agentId hnodup) (fun row hrow ↦ ?_) (fun row hrow ↦ ?_) ?_
  · exact hranked.perm.mem_iff.mp (List.mem_of_mem_take hrow)
  · obtain ⟨e, he, rfl⟩ := List.mem_map.mp hrow
    obtain ⟨rest, hperm, -⟩ := h.newest.rest
    exact List.mem_map_of_mem (hperm.mem_iff.mp (List.mem_append_left rest he))
  · rw [← hids, List.map_map]
    rfl

theorem recordedInOrder_of_sinksAgree (hnodup : (entries.map (·.taskId)).Nodup)
    (h : SinksAgree c entries agentId limit) : RecordedInOrder c entries agentId limit := by
  have hcap := cap_of_sinksAgree h
  have hperm := getRecent_perm_rtake hcap
  have hrest := (hperm.append_right _).trans
    (rtake_append_rdrop_perm (mine agentId entries) limit)
  have hstrict := (forall_take_eq_iff (nodup_taskIds_mine c agentId hnodup).of_map).mp fun ranked hranked ↦
    (take_eq_of_sinksAgree hnodup h hranked).2
  have hread := (take_eq_of_sinksAgree hnodup h
    (ranked_mergeSort Row.createdAt ((mine agentId entries).map c.row)))
  rw [hread.2] at hread
  have holder (e f : TaskHistoryEntry Trigger State Path) (hle : f.createdAt ≤ e.createdAt)
      (hlt : c.toRfc3339 f.createdAt < c.toRfc3339 e.createdAt) : Older c f e := by
    refine ⟨lt_of_le_of_ne hle fun heq ↦ ?_, hlt⟩
    rw [heq] at hlt
    exact lt_irrefl _ hlt
  refine ⟨hcap, fun e he f hf ↦ ?_, ?_, fun e he ↦ ?_⟩
  · have hmem := hperm.mem_iff.mpr he
    refine holder e f (h.newest.le_of_perm hrest e hmem f hf) ?_
    have hrows := hrest.map c.row
    rw [List.map_append] at hrows
    exact hstrict.lt_of_perm hrows _ (List.mem_map_of_mem hmem) _ (List.mem_map_of_mem hf)
  · refine hperm.pairwise ?_ fun hef ↦ hef.symm
    refine (h.newest.sorted.and (List.pairwise_map.mp hstrict.sorted)).imp fun hef ↦ ?_
    exact .inr (holder _ _ hef.1 hef.2)
  · exact readsBack_of_filterMap hread.1 e (hperm.mem_iff.mpr he)

/-- The sinks agree just if the entries that count are recorded in the order of their creation. -/
theorem sinksAgree_iff (hnodup : (entries.map (·.taskId)).Nodup) :
    SinksAgree c entries agentId limit ↔ RecordedInOrder c entries agentId limit :=
  ⟨recordedInOrder_of_sinksAgree hnodup, sinksAgree_of_recordedInOrder hnodup⟩

end Proof

section Example

/-- The seconds after the epoch, as far as one digit goes. -/
def clockCodec : Codec String String String where
  triggerJson := id
  readTrigger := some
  stateJson := id
  readState := some
  display := id
  pathBuf := id
  toRfc3339 t := "1970-01-01T00:00:0" ++ toString (t / 1000000000) ++ "+00:00"
  parseTime
    | "1970-01-01T00:00:01+00:00" => some (DateTime.seconds 1)
    | "1970-01-01T00:00:02+00:00" => some (DateTime.seconds 2)
    | _ => none

def finished (taskId : String) (createdAt : DateTime) : TaskHistoryEntry String String String :=
  ⟨taskId, "cc", "fix the bug", "{}", "{}", "/home/user", createdAt⟩

theorem sinksAgree_iff_of_two :
    SinksAgree clockCodec
        [finished "a" (DateTime.seconds 1), finished "b" (DateTime.seconds 2)] "cc" 1 ↔
      RecordedInOrder clockCodec
        [finished "a" (DateTime.seconds 1), finished "b" (DateTime.seconds 2)] "cc" 1 :=
  sinksAgree_iff (by decide)

/-- The task that was created last finished first: the list in memory gives the other one. -/
theorem not_sinksAgree_of_late_record :
    ¬ SinksAgree clockCodec
      [finished "b" (DateTime.seconds 2), finished "a" (DateTime.seconds 1)] "cc" 1 := by
  intro h
  have hnewer := (recordedInOrder_of_sinksAgree (by decide) h).newer
    (finished "a" (DateTime.seconds 1)) (List.mem_singleton.mpr rfl)
    (finished "b" (DateTime.seconds 2)) (List.mem_singleton.mpr rfl)
  exact absurd hnewer.1 (by decide)

end Example

end AdkGateway.CodingAgent.History
