import Mathlib.Data.List.TakeWhile
import Matchmaker.Proofs.Doubles
import Matchmaker.Proofs.Normal
import Matchmaker.Proofs.Readable
import Matchmaker.Settings

/-!
# Configurations

An environment has settings where none of the checked ones is wrong, and else a list of what is
wrong with them, each once and in their order. What is read is fit for use, the defaults too. Of the
environment nothing counts but the last text under each name that the program knows, in any case.

* `Decimal.isLong_of_formInteger`: a number that a text states can be written out;
* `Settings.Rejects`, **`mem_faults_iff`**, `message_of_isUnfit`: what is wrong with a setting, and
  that it is told so;
* `read_eq_error_iff`, **`isSound_of_read`**: how reading ends, and what is read;
* **`read_congr`**, `read_insert_of_unknown`, `read_insert_of_given`, `read_insert_recased`: what of
  an environment does not count;
* **`origins_apart`**: the origins that the settings name.
-/

namespace Matchmaker

/-! ## Numbers -/

namespace Decimal

theorem of_mapM_asciiDigit? {cs : List Char} {ds : List Nat} (h : cs.mapM asciiDigit? = some ds) :
    ds.length = cs.length ∧ (∀ d ∈ ds, d < 10) ∧ ∀ c ∈ cs, (asciiDigit? c).isSome = true := by
  induction cs generalizing ds with
  | nil =>
    cases h
    simp
  | cons c cs ih =>
    rw [List.mapM_cons] at h
    obtain ⟨d, hd, h⟩ := Option.bind_eq_some_iff.1 h
    obtain ⟨rest, hrest, hds⟩ := Option.bind_eq_some_iff.1 h
    obtain rfl := Option.some.inj hds
    obtain ⟨hlength, hdigits, hsome⟩ := ih hrest
    refine ⟨congrArg (· + 1) hlength, List.forall_mem_cons.2 ⟨lt_of_asciiDigit? hd, hdigits⟩,
      List.forall_mem_cons.2 ⟨hd ▸ rfl, hsome⟩⟩

theorem isLong_of_cleanedInteger {cs : List Char} {n : Int} (h : cleanedInteger cs = .ok n) :
    isLong n = false := by
  unfold cleanedInteger at h
  dsimp only at h
  split at h
  · cases h
  · split at h
    · cases h
    · rename_i hlength
      split at h
      · rename_i ds hds
        obtain rfl := Except.ok.inj h
        obtain ⟨-, hds⟩ := Option.ite_none_left_eq_some.1 hds
        obtain ⟨hsame, hdigits, hsome⟩ := of_mapM_asciiDigit? hds
        rw [List.takeWhile_eq_self_iff.2 hsome, ← hsame, Nat.not_lt] at hlength
        exact isLong_withSign hdigits hlength
      · cases h

/-- **A whole number that a form numeral states can be written out.** -/
theorem isLong_of_formInteger {s : String} {n : Int} (h : formInteger s = .ok n) :
    isLong n = false := by
  unfold formInteger at h
  split at h
  · exact isLong_of_cleanedInteger h
  · cases h

end Decimal

/-! ## What is wrong with a setting -/

namespace LogLevel

theorem ofName?_eq_none_iff {s : String} :
    ofName? s = none ↔ ∀ level : LogLevel, level.name ≠ s.map capital := by
  have hall : ∀ level : LogLevel, level ∈ all := fun level => by cases level <;> decide
  simp only [ofName?, List.find?_eq_none, beq_iff_eq]
  exact ⟨fun h level => h level (hall level), fun h level _ => h level⟩

end LogLevel

namespace Settings

/-- What is wrong for a setting: a text, or that there is none. -/
inductive Rejects : Checked → Option String → SettingFault → Prop
  | missing : Rejects .databaseUrl none .missing
  | notFlag {s : String} (h : readFlag s = .error .notFlag) : Rejects .useCloud (some s) .notFlag
  | notWhole {s : String} (h : Decimal.formInteger s = .error .malformed) :
    Rejects .lockTimeout (some s) .notWhole
  | tooLong {s : String} (h : Decimal.formInteger s = .error .tooLong) :
    Rejects .lockTimeout (some s) .tooLong
  | lockTimeout {s : String} {n : Int} (h : Decimal.formInteger s = .ok n) (hn : n ≤ 0) :
    Rejects .lockTimeout (some s) (.lockTimeout n)
  | logLevel {s : String} (h : ∀ level : LogLevel, level.name ≠ s.map LogLevel.capital) :
    Rejects .logLevel (some s) (.logLevel s)
  | notNumber {s : String} (h : Decimal.formReal? s = none) :
    Rejects .requestTimeout (some s) .notNumber
  | requestTimeout {s : String} {x : Float} (h : Decimal.formReal? s = some x) (hx : x ≤ 0.0) :
    Rejects .requestTimeout (some s) (.requestTimeout x)

section Faults

variable {β : Type} {f : Option String → Except SettingFault β} {given : Option String}
  {s : String} {fault : SettingFault}

theorem faultOf_eq_some_iff : faultOf f given = some fault ↔ f given = .error fault := by
  unfold faultOf
  cases f given <;> simp

theorem faultOf_eq_none_iff : faultOf f given = none ↔ ∃ b, f given = .ok b := by
  unfold faultOf
  cases f given <;> simp

theorem readFlag_eq_error_iff :
    readFlag s = .error fault ↔ Rejects .useCloud (some s) fault := by
  constructor
  · intro h
    have hfault : fault = .notFlag := by
      simp only [readFlag] at h
      split at h
      · cases h
      · split at h <;> cases h
        rfl
    subst hfault
    exact .notFlag h
  · rintro ⟨⟩
    assumption

theorem readLockTimeout_eq_error_iff :
    readLockTimeout s = .error fault ↔ Rejects .lockTimeout (some s) fault := by
  constructor
  · intro h
    unfold readLockTimeout at h
    split at h
    · cases h
      exact .notWhole ‹_›
    · cases h
      exact .tooLong ‹_›
    · split at h
      · cases h
        exact .lockTimeout ‹_› ‹_›
      · cases h
  · intro h
    cases h with
    | notWhole h | tooLong h => simp [readLockTimeout, h]
    | lockTimeout h hn => simp [readLockTimeout, h, hn]

theorem readLogLevel_eq_error_iff :
    readLogLevel s = .error fault ↔ Rejects .logLevel (some s) fault := by
  constructor
  · intro h
    unfold readLogLevel at h
    split at h
    · cases h
    · cases h
      exact .logLevel (LogLevel.ofName?_eq_none_iff.1 ‹_›)
  · intro h
    cases h with
    | logLevel h => simp [readLogLevel, LogLevel.ofName?_eq_none_iff.2 h]

theorem readRequestTimeout_eq_error_iff :
    readRequestTimeout s = .error fault ↔ Rejects .requestTimeout (some s) fault := by
  constructor
  · intro h
    unfold readRequestTimeout at h
    split at h
    · cases h
      exact .notNumber ‹_›
    · split at h
      · cases h
        exact .requestTimeout ‹_› ‹_›
      · cases h
  · intro h
    cases h with
    | notNumber h => simp [readRequestTimeout, h]
    | requestTimeout h hx => simp [readRequestTimeout, h, hx]

theorem rejects_of_some {k : Checked} {readText : String → Except SettingFault β} {default : β}
    (hnone : ∀ {fault}, ¬ Rejects k none fault)
    (h : ∀ {s fault}, readText s = .error fault ↔ Rejects k (some s) fault) :
    readOr default readText given = .error fault ↔ Rejects k given fault := by
  cases given with
  | none => exact iff_of_false nofun hnone
  | some s => exact h

theorem fault?_eq_some_iff {k : Checked} : k.fault? given = some fault ↔ Rejects k given fault := by
  cases k <;> simp only [Checked.fault?, faultOf_eq_some_iff]
  case databaseUrl =>
    cases given with
    | none => exact ⟨fun h => by cases h; exact .missing, fun h => by cases h; rfl⟩
    | some s => exact iff_of_false nofun nofun
  case useCloud => exact rejects_of_some nofun readFlag_eq_error_iff
  case lockTimeout => exact rejects_of_some nofun readLockTimeout_eq_error_iff
  case logLevel => exact rejects_of_some nofun readLogLevel_eq_error_iff
  case requestTimeout => exact rejects_of_some nofun readRequestTimeout_eq_error_iff

end Faults

variable {env : Environment} {s : Settings}

/-- **What is wrong with an environment** is what is wrong with the text of some setting. -/
theorem mem_faults_iff {name : String} {fault : SettingFault} : (name, fault) ∈ faults env ↔
    ∃ k : Checked, k.name = name ∧ Rejects k (env.find? k.name) fault := by
  have hall : ∀ k : Checked, k ∈ Checked.all := fun k => by cases k <;> decide
  simp only [faults, List.mem_filterMap, Option.map_eq_some_iff, fault?_eq_some_iff, Prod.mk.injEq]
  constructor
  · rintro ⟨k, -, _, h, hname, rfl⟩
    exact ⟨k, hname, h⟩
  · rintro ⟨k, hname, h⟩
    exact ⟨k, hall k, fault, h, hname, rfl⟩

theorem names_faults_sublist :
    ((faults env).map Prod.fst).Sublist (Checked.all.map Checked.name) := by
  unfold faults
  induction Checked.all with
  | nil => exact List.Sublist.slnil
  | cons k ks ih =>
    rw [List.filterMap_cons]
    cases k.fault? (env.find? k.name) with
    | none => exact ih.cons _
    | some fault => exact ih.cons_cons _

theorem faults_eq_nil_iff :
    faults env = [] ↔ ∀ k : Checked, k.fault? (env.find? k.name) = none := by
  have hall : ∀ k : Checked, k ∈ Checked.all := fun k => by cases k <;> decide
  simp [faults, List.filterMap_eq_nil_iff, hall]

/-- A fault of a text that can be read, but not be used. -/
def isUnfit : SettingFault → Bool
  | .lockTimeout _ | .logLevel _ | .requestTimeout _ => true
  | _ => false

theorem exists_behind {text start : String} (rest : String) (h : text = start ++ rest)
    (shown : String) :
    ∃ rest, text ++ shown = start ++ rest :=
  ⟨rest ++ shown, by rw [h, String.append_assoc]⟩

theorem message_of_isUnfit {k : Checked} {given : Option String} {fault : SettingFault}
    (h : Rejects k given fault) (hunfit : isUnfit fault = true) :
    ∃ rest, fault.message = "Value error, " ++ k.name ++ rest := by
  cases h with
  | missing | notFlag | notWhole | tooLong | notNumber => cases hunfit
  | @lockTimeout _ n =>
    exact exists_behind " must be positive, got " (by decide) (toString n)
  | @logLevel s =>
    exact exists_behind " must be a standard level name, got " (by decide) (Text.quoted s)
  | @requestTimeout _ x =>
    exact exists_behind " must be positive, got " (by decide) (Decimal.text x)

/-! ## How reading ends -/

theorem read_eq_error_iff {fs : List (String × SettingFault)} :
    read env = .error fs ↔ fs = faults env ∧ fs ≠ [] := by
  unfold read
  split
  case h_1 hurl hcloud hlock hlevel htimeout =>
    have hnone : faults env = [] := faults_eq_nil_iff.2 fun k => by
      cases k <;> exact faultOf_eq_none_iff.2 ⟨_, ‹_›⟩
    exact iff_of_false nofun fun h => h.2 (h.1.trans hnone)
  case h_2 hnot =>
    have hsome : faults env ≠ [] := by
      intro hnil
      have hok := faults_eq_nil_iff.1 hnil
      obtain ⟨url, hurl⟩ := faultOf_eq_none_iff.1 (hok .databaseUrl)
      obtain ⟨cloud, hcloud⟩ := faultOf_eq_none_iff.1 (hok .useCloud)
      obtain ⟨lock, hlock⟩ := faultOf_eq_none_iff.1 (hok .lockTimeout)
      obtain ⟨level, hlevel⟩ := faultOf_eq_none_iff.1 (hok .logLevel)
      obtain ⟨timeout, htimeout⟩ := faultOf_eq_none_iff.1 (hok .requestTimeout)
      exact hnot _ _ _ _ _ hurl hcloud hlock hlevel htimeout
    constructor
    · rintro ⟨⟩
      exact ⟨rfl, hsome⟩
    · rintro ⟨rfl, -⟩
      rfl

theorem of_lockTimeoutOf {given : Option String} {n : Int} (h : lockTimeoutOf given = .ok n) :
    0 < n ∧ Decimal.isLong n = false := by
  cases given with
  | none =>
    cases h
    decide
  | some s =>
    simp only [lockTimeoutOf, readOr, readLockTimeout] at h
    split at h
    · cases h
    · cases h
    · rename_i m hm
      split at h
      · cases h
      · cases h
        exact ⟨Int.not_le.1 ‹_›, Decimal.isLong_of_formInteger hm⟩

theorem of_requestTimeoutOf {given : Option String} {x : Float}
    (h : requestTimeoutOf given = .ok x) : ¬ x ≤ 0.0 := by
  cases given with
  | none =>
    cases h
    decide +kernel
  | some s =>
    simp only [requestTimeoutOf, readOr, readRequestTimeout] at h
    split at h
    · cases h
    · split at h
      · cases h
      · cases h
        assumption

/-- Settings that are fit for use. -/
structure IsSound (s : Settings) : Prop where
  lockTimeout : 0 < s.lockTimeout
  /-- The lock timeout can be written out in a statement. -/
  isLong : Decimal.isLong s.lockTimeout = false
  requestTimeout : ¬ s.requestTimeout ≤ 0.0

/-- **What is read is fit for use**, the defaults too. -/
theorem isSound_of_read (h : read env = .ok s) : s.IsSound := by
  unfold read at h
  split at h
  case h_1 hlock _ htimeout =>
    cases h
    exact ⟨(of_lockTimeoutOf hlock).1, (of_lockTimeoutOf hlock).2, of_requestTimeoutOf htimeout⟩
  case h_2 => cases h

end Settings

/-! ## What of an environment does not count -/

namespace Environment

variable {before after : Environment} {name : String}

theorem find?_insert {entry : String × String} :
    find? (before ++ entry :: after) name = (find? after name).or
      (if Text.lower entry.1 = Text.lower name then some entry.2 else find? before name) := by
  simp only [find?, List.reverse_append, List.reverse_cons, List.find?_append, List.find?_singleton,
    beq_iff_eq, Option.or_assoc, Option.map_or]
  split <;> rfl

theorem find?_append :
    find? (before ++ after) name = (find? after name).or (find? before name) := by
  simp only [find?, List.reverse_append, List.find?_append, Option.map_or]

theorem isSome_find?_iff :
    (find? after name).isSome = true ↔ ∃ entry ∈ after, Text.lower entry.1 = Text.lower name := by
  simp [find?, List.find?_isSome]

end Environment

namespace Settings

/-- The names that mean something. -/
def names : List String :=
  Checked.all.map Checked.name ++ ["DB_USER", "DB_PASSWORD", "DB_NAME",
    "CLOUD_SQL_INSTANCE_CONNECTION", "AUTH_USER_HEADER", "ENVIRONMENT", "ALLOWED_ORIGINS"]

/-- **Nothing counts but the texts under the names that mean something.** -/
theorem read_congr {env env' : Environment} (h : ∀ name ∈ names, env.find? name = env'.find? name) :
    read env = read env' := by
  have hchecked : ∀ k : Checked, env.find? k.name = env'.find? k.name := fun k =>
    h _ (by cases k <;> decide)
  have hfaults : faults env = faults env' := by
    unfold faults
    simp only [hchecked]
  unfold read
  rw [hfaults, hchecked, hchecked, hchecked, hchecked, hchecked, h "DB_USER" (by decide),
    h "DB_PASSWORD" (by decide), h "DB_NAME" (by decide),
    h "CLOUD_SQL_INSTANCE_CONNECTION" (by decide), h "AUTH_USER_HEADER" (by decide),
    h "ENVIRONMENT" (by decide), h "ALLOWED_ORIGINS" (by decide)]

variable {before after : Environment} {name : String}

theorem read_insert_of_unknown (h : ∀ known ∈ names, Text.lower name ≠ Text.lower known)
    (given : String) : read (before ++ (name, given) :: after) = read (before ++ after) := by
  refine read_congr fun known hknown => ?_
  rw [Environment.find?_insert, if_neg (h known hknown), Environment.find?_append]

theorem read_insert_of_given (h : ∃ entry ∈ after, Text.lower entry.1 = Text.lower name)
    (given : String) : read (before ++ (name, given) :: after) = read (before ++ after) := by
  refine read_congr fun known _ => ?_
  rw [Environment.find?_insert, Environment.find?_append]
  split
  case isTrue hname =>
    obtain ⟨later, hlater⟩ := Option.isSome_iff_exists.1 (Environment.isSome_find?_iff.2 h)
    have hsame : after.find? known = after.find? name := by
      unfold Environment.find?
      rw [hname]
    rw [hsame, hlater]
    rfl
  case isFalse => rfl

theorem read_insert_recased {name' : String} (h : Text.lower name = Text.lower name')
    (given : String) :
    read (before ++ (name, given) :: after) = read (before ++ (name', given) :: after) := by
  refine read_congr fun known _ => ?_
  rw [Environment.find?_insert, Environment.find?_insert, h]

end Settings

/-! ## Origins -/

theorem Text.not_mem_of_mem_splitOn {c : Char} {cs part : List Char}
    (h : part ∈ Text.splitOn c cs) : c ∉ part := by
  induction cs generalizing part with
  | nil =>
    rw [splitOn, List.mem_singleton] at h
    exact h ▸ List.not_mem_nil
  | cons d ds ih =>
    obtain ⟨first, rest, hs⟩ := List.exists_cons_of_ne_nil (splitOn_ne_nil c ds)
    rw [hs] at ih
    by_cases hd : d = c
    · simp only [splitOn, hd, beq_self_eq_true, if_true, hs, List.mem_cons] at h
      rcases h with rfl | h
      · exact List.not_mem_nil
      · exact ih (List.mem_cons.2 h)
    · simp only [splitOn, beq_iff_eq, hd, if_false, hs, List.mem_cons] at h
      rcases h with rfl | h
      · rw [List.mem_cons, not_or]
        exact ⟨Ne.symm hd, ih List.mem_cons_self⟩
      · exact ih (List.mem_cons_of_mem _ h)

/-- **There are origins, and each is a text of its own.** -/
theorem Settings.origins_apart (s : Settings) : s.origins ≠ [] ∧
    ∀ origin ∈ s.origins, ',' ∉ origin.toList ∧ Text.strip origin = origin := by
  refine ⟨fun h => Text.splitOn_ne_nil _ _ (List.map_eq_nil_iff.1 h), fun origin horigin => ?_⟩
  obtain ⟨part, hpart, rfl⟩ := List.mem_map.1 horigin
  refine ⟨fun hmem => Text.not_mem_of_mem_splitOn hpart ?_, Text.strip_strip _⟩
  rw [Text.toList_strip, String.toList_ofList, Text.trim, List.mem_reverse] at hmem
  exact (List.dropWhile_sublist _).subset
    (List.mem_reverse.1 ((List.dropWhile_sublist _).subset hmem))

end Matchmaker
