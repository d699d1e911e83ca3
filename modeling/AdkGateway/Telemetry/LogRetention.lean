import AdkGateway.Foundation.Splitting
import AdkGateway.Foundation.Time

namespace AdkGateway.Telemetry

open Foundation Text

inductive RotationPolicy
  | daily
  | hourly
  | size (maxBytes : UInt64)

structure LogRotationConfig where
  rotation : RotationPolicy
  retentionDays : UInt32

/-- How the libraries write and read dates: the names of the days and hours since the epoch, and
the earliest time there is. The name of an hour is no date. -/
structure Dates where
  earliest : ℤ
  dayName : ℕ → String
  hourName : ℕ → String
  parseDate : String → Option ℤ
  parseDate_dayName : ∀ d, parseDate (dayName d) = some (d : ℤ)
  parseDate_hourName : ∀ h, parseDate (hourName h) = none
  hourName_inj : ∀ h h', hourName h = hourName h' → h = h'

inductive FileKind
  | file
  | directory
  | linkToFile

/-- A file in a directory; a name that is no UTF-8 is `none`. -/
structure FileMeta where
  name : Option String
  kind : FileKind
  created : Option ℤ
  modified : Option ℤ

structure LogFileInfo where
  path : String
  createdAt : ℤ

def day : ℤ := DateTime.hours 24

section Cleaning

variable (dates : Dates) (disk : String → FileMeta) (config : LogRotationConfig) (now : ℤ)

/-- The start of the retention period, unless it is out of range, which panics. -/
def cutoff : Option ℤ :=
  let cutoff := now - config.retentionDays.toNat * day
  if dates.earliest ≤ cutoff then some cutoff else none

def filesToDelete (files : List LogFileInfo) : Option (List String) :=
  (cutoff dates config now).map fun cutoff ↦
    (files.filter (·.createdAt < cutoff)).map (·.path)

def parseLogDateFromFilename (filename : String) : Option ℤ :=
  (stripPrefix "adk-gateway.log." filename.toList).bind fun datePart ↦
    (dates.parseDate (String.ofList datePart)).map (· * day)

def createdAt (filename : String) (info : FileMeta) : ℤ :=
  ((parseLogDateFromFilename dates filename).or info.created).getD now

def startsAsLog (filename : String) : Bool := "adk-gateway.log".toList.isPrefixOf filename.toList

def isFile : FileKind → Bool
  | .file => true
  | .linkToFile => true
  | .directory => false

def scanLogFile (path : String) : Option LogFileInfo :=
  if isFile (disk path).kind then
    match (disk path).name with
    | some filename =>
      if startsAsLog filename then some ⟨path, createdAt dates now filename (disk path)⟩ else none
    | none => none
  else none

def scanLogFiles (logDir : List String) : List LogFileInfo :=
  logDir.filterMap (scanLogFile dates disk now)

def cleanup (logDir : List String) : Option (List String) :=
  filesToDelete dates config now (scanLogFiles dates disk now logDir)

/-- What the control panel deletes of the directory `logs`. -/
def clearOldLogs (logs : List String) : Option (List String) :=
  (cutoff dates config now).map fun cutoff ↦
    logs.filter fun path ↦
      match (disk path).kind with
      | .file => (disk path).modified.any (· < cutoff)
      | _ => false

end Cleaning

inductive LogName
  | daily (d : ℕ)
  | hourly (h : ℕ)

namespace LogName

def fileName (dates : Dates) : LogName → String
  | daily d => "adk-gateway.log." ++ dates.dayName d
  | hourly h => "adk-gateway.log." ++ dates.hourName h

def stop : LogName → ℤ
  | daily d => (d + 1) * day
  | hourly h => (h + 1) * DateTime.hours 1

end LogName

def IsLog (dates : Dates) (info : FileMeta) : Prop :=
  info.kind = .file ∧ ∃ log : LogName, info.name = some (log.fileName dates)

section Expired

variable (dates : Dates) (disk : String → FileMeta) (config : LogRotationConfig) (now : ℤ)

def retentionStart : ℤ := now - config.retentionDays.toNat * day

def Expired (path : String) : Prop :=
  (disk path).kind = .file ∧ ∃ log : LogName, (disk path).name = some (log.fileName dates) ∧
    log.stop ≤ retentionStart config now

/-- Both ways of cleaning delete just the expired logs of the directory. -/
def CleansRightly (logDir logs : List String) : Prop :=
  (∃ deleted, cleanup dates disk config now logDir = some deleted ∧
    ∀ path, path ∈ deleted ↔ path ∈ logDir ∧ Expired dates disk config now path) ∧
  ∃ deleted, clearOldLogs dates disk config now logs = some deleted ∧
    ∀ path, path ∈ deleted ↔ path ∈ logDir ∧ Expired dates disk config now path

/-- Nothing in the directories brings the two ways apart from what is expired: the retention period
begins inside no day of a log, the hours of logs are told by the times at which their files were
made, and the control panel's directory has each expired log and nothing else that is as old. -/
structure RetentionFits (logDir logs : List String) : Prop where
  inRange : dates.earliest ≤ retentionStart config now
  daily : ∀ path ∈ logDir, (disk path).kind = .file → ∀ d : ℕ,
    (disk path).name = some ((LogName.daily d).fileName dates) →
      ¬ (d * day < retentionStart config now ∧ retentionStart config now < (d + 1) * day)
  hourly : ∀ path ∈ logDir, (disk path).kind = .file → ∀ h : ℕ,
    (disk path).name = some ((LogName.hourly h).fileName dates) →
      ((disk path).created.getD now < retentionStart config now ↔
        (h + 1) * DateTime.hours 1 ≤ retentionStart config now)
  foreign : ∀ path ∈ logDir, ¬ IsLog dates (disk path) → isFile (disk path).kind = true →
    ∀ filename, (disk path).name = some filename → startsAsLog filename = true →
      retentionStart config now ≤ createdAt dates now filename (disk path)
  panelFinds : ∀ path ∈ logDir, Expired dates disk config now path →
    path ∈ logs ∧ ∃ t, (disk path).modified = some t ∧ t < retentionStart config now
  panelSpares : ∀ path ∈ logs, (disk path).kind = .file →
    ∀ t, (disk path).modified = some t → t < retentionStart config now →
      path ∈ logDir ∧ Expired dates disk config now path

end Expired

section Names

variable (dates : Dates) (now : ℤ) (info : FileMeta)

theorem fileName_daily (d : ℕ) :
    (LogName.daily d).fileName dates = "adk-gateway.log." ++ dates.dayName d := rfl

theorem fileName_hourly (h : ℕ) :
    (LogName.hourly h).fileName dates = "adk-gateway.log." ++ dates.hourName h := rfl

theorem parse_fileName_daily (d : ℕ) :
    parseLogDateFromFilename dates ((LogName.daily d).fileName dates) = some (d * day) := by
  rw [parseLogDateFromFilename, fileName_daily, String.toList_append, stripPrefix_append,
    Option.bind_some, String.ofList_toList, dates.parseDate_dayName, Option.map_some]

theorem parse_fileName_hourly (h : ℕ) :
    parseLogDateFromFilename dates ((LogName.hourly h).fileName dates) = none := by
  rw [parseLogDateFromFilename, fileName_hourly, String.toList_append, stripPrefix_append,
    Option.bind_some, String.ofList_toList, dates.parseDate_hourName, Option.map_none]

theorem createdAt_daily (d : ℕ) :
    createdAt dates now ((LogName.daily d).fileName dates) info = d * day := by
  rw [createdAt, parse_fileName_daily, Option.some_or, Option.getD_some]

theorem createdAt_hourly (h : ℕ) :
    createdAt dates now ((LogName.hourly h).fileName dates) info = info.created.getD now := by
  rw [createdAt, parse_fileName_hourly, Option.none_or]

theorem startsAsLog_fileName (log : LogName) : startsAsLog (log.fileName dates) = true := by
  have hdot : "adk-gateway.log.".toList = "adk-gateway.log".toList ++ ['.'] := rfl
  rw [startsAsLog, List.isPrefixOf_iff_prefix]
  cases log with
  | daily d =>
    rw [fileName_daily, String.toList_append, hdot, List.append_assoc]
    exact List.prefix_append _ _
  | hourly h =>
    rw [fileName_hourly, String.toList_append, hdot, List.append_assoc]
    exact List.prefix_append _ _

end Names

section Cleaning

variable {dates : Dates} {disk : String → FileMeta} {config : LogRotationConfig} {now : ℤ}
  {logDir logs : List String} {path : String}

def Dated (dates : Dates) (disk : String → FileMeta) (config : LogRotationConfig) (now : ℤ)
    (path : String) : Prop :=
  isFile (disk path).kind = true ∧ ∃ filename, (disk path).name = some filename ∧
    startsAsLog filename = true ∧
    createdAt dates now filename (disk path) < retentionStart config now

theorem cutoff_eq (dates : Dates) (config : LogRotationConfig) (now : ℤ) :
    cutoff dates config now =
      if dates.earliest ≤ retentionStart config now then some (retentionStart config now)
      else none := rfl

theorem scanLogFile_eq_some_iff {info : LogFileInfo} :
    scanLogFile dates disk now path = some info ↔ isFile (disk path).kind = true ∧
      ∃ filename, (disk path).name = some filename ∧ startsAsLog filename = true ∧
        ⟨path, createdAt dates now filename (disk path)⟩ = info := by
  rw [scanLogFile, Option.ite_none_right_eq_some]
  refine and_congr_right fun _ ↦ ?_
  cases (disk path).name with
  | none => simp
  | some filename => simp

theorem mem_cleaned :
    path ∈ ((scanLogFiles dates disk now logDir).filter
      (·.createdAt < retentionStart config now)).map (·.path) ↔
      path ∈ logDir ∧ Dated dates disk config now path := by
  simp only [List.mem_map, List.mem_filter, scanLogFiles, List.mem_filterMap,
    scanLogFile_eq_some_iff, decide_eq_true_eq]
  constructor
  · rintro ⟨info, ⟨⟨path', hmem, hfile, filename, hname, hstarts, rfl⟩, hold⟩, rfl⟩
    exact ⟨hmem, hfile, filename, hname, hstarts, hold⟩
  · rintro ⟨hmem, hfile, filename, hname, hstarts, hold⟩
    exact ⟨_, ⟨⟨path, hmem, hfile, filename, hname, hstarts, rfl⟩, hold⟩, rfl⟩

/-- A cleaning that can tell the start of the period deletes a set of files, and the other way
panics. -/
theorem cleans_iff {files : ℤ → List String} {P : String → Prop} :
    (∃ deleted, (cutoff dates config now).map files = some deleted ∧
      ∀ path, path ∈ deleted ↔ P path) ↔
      dates.earliest ≤ retentionStart config now ∧
        ∀ path, path ∈ files (retentionStart config now) ↔ P path := by
  rw [cutoff_eq]
  by_cases hrange : dates.earliest ≤ retentionStart config now
  · simp [hrange]
  · simp [hrange]

theorem cleanup_iff : (∃ deleted, cleanup dates disk config now logDir = some deleted ∧
      ∀ path, path ∈ deleted ↔ path ∈ logDir ∧ Expired dates disk config now path) ↔
    dates.earliest ≤ retentionStart config now ∧
      ∀ path ∈ logDir, Dated dates disk config now path ↔ Expired dates disk config now path := by
  have hcleans := @cleans_iff dates config now
    (fun start ↦ ((scanLogFiles dates disk now logDir).filter (·.createdAt < start)).map (·.path))
    (fun path ↦ path ∈ logDir ∧ Expired dates disk config now path)
  simp only [mem_cleaned, and_congr_right_iff] at hcleans
  exact hcleans

theorem dated_daily_iff {d : ℕ} (hkind : (disk path).kind = .file)
    (hname : (disk path).name = some ((LogName.daily d).fileName dates)) :
    Dated dates disk config now path ↔ d * day < retentionStart config now := by
  simp only [Dated, hkind, hname, isFile, Option.some.injEq, true_and, exists_eq_left',
    startsAsLog_fileName, createdAt_daily]

theorem dated_hourly_iff {h : ℕ} (hkind : (disk path).kind = .file)
    (hname : (disk path).name = some ((LogName.hourly h).fileName dates)) :
    Dated dates disk config now path ↔
      (disk path).created.getD now < retentionStart config now := by
  simp only [Dated, hkind, hname, isFile, Option.some.injEq, true_and, exists_eq_left',
    startsAsLog_fileName, createdAt_hourly]

theorem day_pos : 0 < day := by decide

theorem fileName_inj {log log' : LogName} (h : log.fileName dates = log'.fileName dates) :
    log = log' := by
  have hparse := congrArg (parseLogDateFromFilename dates) h
  cases log with
  | daily d =>
    cases log' with
    | daily d' =>
      rw [parse_fileName_daily, parse_fileName_daily, Option.some.injEq] at hparse
      have hd : (d : ℤ) = d' := Int.eq_of_mul_eq_mul_right day_pos.ne' hparse
      rw [Int.natCast_inj.mp hd]
    | hourly h' =>
      rw [parse_fileName_daily, parse_fileName_hourly] at hparse
      cases hparse
  | hourly h₁ =>
    cases log' with
    | daily d' =>
      rw [parse_fileName_daily, parse_fileName_hourly] at hparse
      cases hparse
    | hourly h' =>
      rw [fileName_hourly, fileName_hourly, String.append_right_inj] at h
      rw [dates.hourName_inj _ _ h]

theorem expired_iff {log : LogName} (hkind : (disk path).kind = .file)
    (hname : (disk path).name = some (log.fileName dates)) :
    Expired dates disk config now path ↔ log.stop ≤ retentionStart config now := by
  constructor
  · rintro ⟨-, log', hname', hstop⟩
    rw [hname, Option.some.injEq] at hname'
    rwa [fileName_inj hname']
  · exact fun hstop ↦ ⟨hkind, log, hname, hstop⟩

theorem dated_iff_expired_iff : (∀ path ∈ logDir,
    Dated dates disk config now path ↔ Expired dates disk config now path) ↔
    (∀ path ∈ logDir, (disk path).kind = .file → ∀ d : ℕ,
      (disk path).name = some ((LogName.daily d).fileName dates) →
        ¬ (d * day < retentionStart config now ∧ retentionStart config now < (d + 1) * day)) ∧
    (∀ path ∈ logDir, (disk path).kind = .file → ∀ h : ℕ,
      (disk path).name = some ((LogName.hourly h).fileName dates) →
        ((disk path).created.getD now < retentionStart config now ↔
          (h + 1) * DateTime.hours 1 ≤ retentionStart config now)) ∧
    ∀ path ∈ logDir, ¬ IsLog dates (disk path) → isFile (disk path).kind = true →
      ∀ filename, (disk path).name = some filename → startsAsLog filename = true →
        retentionStart config now ≤ createdAt dates now filename (disk path) := by
  constructor
  · intro h
    refine ⟨fun path hmem hkind d hname ↦ ?_, fun path hmem hkind h' hname ↦ ?_,
      fun path hmem hlog hfile filename hname hstarts ↦ ?_⟩
    · have hiff := h path hmem
      rw [dated_daily_iff hkind hname, expired_iff hkind hname, LogName.stop] at hiff
      rintro ⟨hlt, hgt⟩
      exact absurd hgt (not_lt.mpr (hiff.mp hlt))
    · have hiff := h path hmem
      rwa [dated_hourly_iff hkind hname, expired_iff hkind hname, LogName.stop] at hiff
    · by_contra hlt
      obtain ⟨hkind, log, hlogname, -⟩ :=
        (h path hmem).mp ⟨hfile, filename, hname, hstarts, not_le.mp hlt⟩
      exact hlog ⟨hkind, log, hlogname⟩
  · rintro ⟨hdaily, hhourly, hforeign⟩ path hmem
    by_cases hlog : IsLog dates (disk path)
    · obtain ⟨hkind, log, hname⟩ := hlog
      rw [expired_iff hkind hname]
      cases log with
      | daily d =>
        have hday := hdaily path hmem hkind d hname
        have hnext : ((d : ℤ) + 1) * day = d * day + day := by rw [Int.add_mul, Int.one_mul]
        have hpos := day_pos
        rw [dated_daily_iff hkind hname, LogName.stop]
        omega
      | hourly h =>
        rw [dated_hourly_iff hkind hname]
        exact hhourly path hmem hkind h hname
    · refine iff_of_false ?_ fun ⟨hkind, log, hname, _⟩ ↦ hlog ⟨hkind, log, hname⟩
      rintro ⟨hfile, filename, hname, hstarts, hlt⟩
      exact absurd hlt (not_lt.mpr (hforeign path hmem hlog hfile filename hname hstarts))

theorem panel_iff : (∀ path, path ∈ (logs.filter fun path ↦
      match (disk path).kind with
      | .file => (disk path).modified.any (· < retentionStart config now)
      | _ => false) ↔ path ∈ logDir ∧ Expired dates disk config now path) ↔
    (∀ path ∈ logDir, Expired dates disk config now path →
      path ∈ logs ∧ ∃ t, (disk path).modified = some t ∧ t < retentionStart config now) ∧
    ∀ path ∈ logs, (disk path).kind = .file → ∀ t, (disk path).modified = some t →
      t < retentionStart config now → path ∈ logDir ∧ Expired dates disk config now path := by
  have hmem (path : String) : path ∈ (logs.filter fun path ↦
      match (disk path).kind with
      | .file => (disk path).modified.any (· < retentionStart config now)
      | _ => false) ↔ path ∈ logs ∧ (disk path).kind = .file ∧
        ∃ t, (disk path).modified = some t ∧ t < retentionStart config now := by
    rw [List.mem_filter]
    refine and_congr_right fun _ ↦ ?_
    cases (disk path).kind <;> simp [Option.any_eq_true]
  simp only [hmem]
  constructor
  · intro h
    refine ⟨fun path hdir hexpired ↦ ?_, fun path hlogs hkind t ht hlt ↦ ?_⟩
    · obtain ⟨hlogs, -, hold⟩ := (h path).mpr ⟨hdir, hexpired⟩
      exact ⟨hlogs, hold⟩
    · exact (h path).mp ⟨hlogs, hkind, t, ht, hlt⟩
  · rintro ⟨hfinds, hspares⟩ path
    constructor
    · rintro ⟨hlogs, hkind, t, ht, hlt⟩
      exact hspares path hlogs hkind t ht hlt
    · rintro ⟨hdir, hexpired⟩
      obtain ⟨hlogs, hold⟩ := hfinds path hdir hexpired
      exact ⟨hlogs, hexpired.1, hold⟩

end Cleaning

/-- Both ways of cleaning delete just the expired logs if and only if the directories fit. -/
theorem cleansRightly_iff (dates : Dates) (disk : String → FileMeta) (config : LogRotationConfig)
    (now : ℤ) (logDir logs : List String) : CleansRightly dates disk config now logDir logs ↔
      RetentionFits dates disk config now logDir logs := by
  have hpanel := @cleans_iff dates config now
    (fun start ↦ logs.filter fun path ↦
      match (disk path).kind with
      | .file => (disk path).modified.any (· < start)
      | _ => false)
    (fun path ↦ path ∈ logDir ∧ Expired dates disk config now path)
  simp only [panel_iff] at hpanel
  constructor
  · rintro ⟨hcleaned, hcleared⟩
    obtain ⟨hrange, hdated⟩ := cleanup_iff.mp hcleaned
    obtain ⟨hdaily, hhourly, hforeign⟩ := dated_iff_expired_iff.mp hdated
    obtain ⟨-, hfinds, hspares⟩ := hpanel.mp hcleared
    exact ⟨hrange, hdaily, hhourly, hforeign, hfinds, hspares⟩
  · rintro ⟨hrange, hdaily, hhourly, hforeign, hfinds, hspares⟩
    have hdated := dated_iff_expired_iff.mpr ⟨hdaily, hhourly, hforeign⟩
    exact ⟨cleanup_iff.mpr ⟨hrange, hdated⟩, hpanel.mpr ⟨hrange, hfinds, hspares⟩⟩

section Example

def dayOfMay : ℕ := 20578

def dayNames (d : ℕ) : String := if d = dayOfMay then "2026-05-05" else "day-" ++ toString d

theorem dayNames_dayOfMay : dayNames dayOfMay = "2026-05-05" := if_pos (Eq.refl dayOfMay)

def hourNames (h : ℕ) : String := "hour-" ++ toString h

def readDay (s : String) : Option ℤ :=
  if s = "2026-05-05" then some dayOfMay
  else (stripPrefix "day-" s.toList).map fun digits ↦ (Nat.ofDigitChars 10 digits 0 : ℤ)

theorem append_ne_date {c : Char} {start : String} (hc : start.toList.head? = some c)
    (hne : c ≠ '2') (rest : String) : start ++ rest ≠ "2026-05-05" := by
  intro h
  have hhead := congrArg (fun s : String ↦ s.toList.head?) h
  simp only [String.toList_append, List.head?_append, hc, Option.some_or] at hhead
  exact hne (Option.some.inj hhead)

theorem readDay_dayNames (d : ℕ) : readDay (dayNames d) = some (d : ℤ) := by
  rw [dayNames]
  by_cases hd : d = dayOfMay
  · rw [if_pos hd, readDay, if_pos rfl, hd]
  · have hne : "day-" ++ toString d ≠ "2026-05-05" := append_ne_date rfl (by decide) _
    rw [if_neg hd, readDay, if_neg hne, String.toList_append, stripPrefix_append, Option.map_some]
    simp [Nat.ofDigitChars_ten_toDigits]

theorem readDay_hourNames (h : ℕ) : readDay (hourNames h) = none := by
  have hne : "hour-" ++ toString h ≠ "2026-05-05" := append_ne_date rfl (by decide) _
  rw [hourNames, readDay, if_neg hne, String.toList_append, stripPrefix]
  rfl

theorem hourNames_inj (h h' : ℕ) (heq : hourNames h = hourNames h') : h = h' := by
  rw [hourNames, hourNames, String.append_right_inj] at heq
  have hvalue := congrArg (fun s : String ↦ Nat.ofDigitChars 10 s.toList 0) heq
  simpa [Nat.ofDigitChars_ten_toDigits] using hvalue

def mayDates : Dates :=
  ⟨-8334601228800000000000, dayNames, hourNames, readDay, readDay_dayNames, readDay_hourNames,
    hourNames_inj⟩

/-- The log of the fifth of May, with entries up to the end of that day. -/
def mayLog : FileMeta :=
  ⟨some "adk-gateway.log.2026-05-05", .file, some (dayOfMay * day),
    some (dayOfMay * day + DateTime.hours 23)⟩

def mayLogs : List String := ["logs/adk-gateway.log.2026-05-05"]

/-- Ten o'clock on the twelfth of May. -/
def mayTime : ℤ := (dayOfMay + 7) * day + DateTime.hours 10

/-- A week later in the morning the log of the fifth is deleted, with entries of the last seven
days. -/
theorem not_cleansRightly :
    ¬ CleansRightly mayDates (fun _ ↦ mayLog) ⟨.daily, 7⟩ mayTime mayLogs mayLogs := by
  rintro ⟨hcleanup, -⟩
  obtain ⟨-, hiff⟩ := cleanup_iff.mp hcleanup
  have hname : mayLog.name = some ((LogName.daily dayOfMay).fileName mayDates) := by
    have hday : mayDates.dayName dayOfMay = "2026-05-05" := dayNames_dayOfMay
    rw [fileName_daily, hday]
    rfl
  have hdated : Dated mayDates (fun _ ↦ mayLog) ⟨.daily, 7⟩ mayTime
      "logs/adk-gateway.log.2026-05-05" := (dated_daily_iff rfl hname).mpr (by decide)
  have hexpired := (hiff _ (List.mem_singleton_self _)).mp hdated
  rw [expired_iff rfl hname] at hexpired
  exact absurd hexpired (by decide)

end Example

end AdkGateway.Telemetry
