import Mathlib.Data.List.TakeWhile
import Matchmaker.Database.Driver
import Matchmaker.Proofs.Configuration
import Matchmaker.Proofs.Outcome

/-!
# Engines and pairs

The program relies on little of the database library: what a URL leads to has the dialect that the
URL names, and only two dialects have a driver that can be used. Then no configuration leaves the
transitions on one pair to themselves. On SQLite a transaction has the lock of the writer from where
it begins; on PostgreSQL there are statements for the lock of the pair.

* `IsLibrary`: what the program relies on;
* `Address.read_eq_ok`, `Driver.ofName_eq_ok`, **`Backend.isLibrary_ofUrl`**: the drivers that are
  known are such a library;
* **`Engine.ofUrl_plain`**, `cloud_of_ofSettings`: which engine it is;
* **`Engine.keeps_pairs_apart`**: how it keeps the transitions on one pair apart.
-/

namespace Matchmaker

/-! ## URLs and their drivers -/

namespace Engine

theorem withDriver_plain (rest : String) :
    withDriver (plainStart ++ rest) = asyncStart ++ rest := by
  have hstart : plainStart.toList.isPrefixOf (plainStart ++ rest).toList = true := by
    rw [String.toList_append]
    exact List.isPrefixOf_iff_prefix.2 (List.prefix_append _ _)
  have hdrop : (plainStart ++ rest).toList.drop plainStart.length = rest.toList := by
    rw [String.toList_append, ← String.length_toList, List.drop_left]
  rw [withDriver, if_pos hstart, hdrop, String.ofList_toList]

theorem withDriver_async (rest : String) :
    withDriver (asyncStart ++ rest) = asyncStart ++ rest := by
  have hstart : plainStart.toList.isPrefixOf (asyncStart ++ rest).toList = false := by
    rw [String.toList_append]
    rfl
  rw [withDriver, hstart]
  rfl

theorem tuningOf_eq_immediate_iff {url : String} :
    tuningOf url = .immediate ↔ "sqlite".toList <+: url.toList := by
  rw [tuningOf, ← List.isPrefixOf_iff_prefix]
  split <;> simp_all

end Engine

/-! ## What the program relies on -/

/-- A character of the name of a dialect. -/
def isDialectChar (c : Char) : Bool :=
  c != '+' && c != ':'

theorem takeWhile_isDialectChar {name : List Char} (h : ':' ∉ name) (rest : List Char) :
    (name ++ ':' :: rest).takeWhile isDialectChar = name.takeWhile (· != '+') := by
  induction name with
  | nil => rfl
  | cons c name ih =>
    rw [List.mem_cons, not_or] at h
    have hc : isDialectChar c = (c != '+') := by simp [isDialectChar, Ne.symm h.1]
    simp only [List.cons_append, List.takeWhile_cons, hc, ih h.2]

/-- What the program relies on in a database library. -/
structure IsLibrary {ε : Type} (connect : String → Except ε Backend) : Prop where
  /-- The dialect is what a URL begins with. -/
  dialect : ∀ url b, connect url = .ok b → b.dialect.toList = url.toList.takeWhile isDialectChar
  /-- There are drivers for two dialects. -/
  driver : ∀ url b, connect url = .ok b →
    b.dialect = "postgresql" ∧ b.driver = "asyncpg" ∨ b.dialect = "sqlite" ∧ b.driver = "aiosqlite"

/-! ## The drivers that are known -/

theorem Text.head?_splitOn (c : Char) (cs : List Char) :
    (splitOn c cs).head? = some (cs.takeWhile (· != c)) := by
  induction cs with
  | nil => rfl
  | cons d ds ih =>
    by_cases hd : d = c
    · simp [splitOn, hd]
    · obtain ⟨part, parts, hs⟩ := List.exists_cons_of_ne_nil (splitOn_ne_nil c ds)
      rw [hs, List.head?_cons, Option.some.injEq] at ih
      simp [splitOn, hd, hs, ih]

namespace Address

theorem read_eq_ok {url : String} {a : Address} (h : read url = .ok a) :
    (∀ c ∈ a.driver, isNameChar c = true) ∧ ∃ rest, url.toList = a.driver ++ ':' :: rest := by
  unfold read at h
  dsimp only at h
  split at h
  case h_2 => cases h
  case h_1 cs hdrop =>
    split at h
    · cases h
    · obtain ⟨port, -, hport⟩ := bind_eq_ok_iff.1 h
      rw [← pure_eq_ok_iff.1 hport]
      refine ⟨fun c hc => List.mem_takeWhile_imp hc, '/' :: '/' :: cs, ?_⟩
      rw [← hdrop]
      exact (List.prefix_iff_eq_append.1 (List.takeWhile_prefix _)).symm

end Address

namespace Driver

variable {name dialect driver : List Char} {d : Driver}

theorem find_eq_ok (h : find dialect driver = .ok d) : d ∈ all ∧ d.dialect.toList = dialect := by
  unfold find at h
  split at h
  case h_1 d' hd =>
    cases h
    have hmatch := List.find?_some hd
    rw [Bool.and_eq_true, beq_iff_eq] at hmatch
    exact ⟨List.mem_of_find?_eq_some hd, hmatch.1⟩
  case h_2 => cases h

theorem ofName_eq_ok (h : ofName name = .ok d) :
    d ∈ all ∧ d.dialect.toList = name.takeWhile (· != '+') := by
  have hhead := Text.head?_splitOn '+' name
  unfold ofName at h
  split at h
  case h_1 dialect hs =>
    rw [hs] at hhead
    exact Option.some.inj hhead ▸ find_eq_ok h
  case h_2 dialect driver hs =>
    rw [hs] at hhead
    exact Option.some.inj hhead ▸ find_eq_ok h
  case h_3 => cases h

theorem ready_of_checks (hthere : d.checkThere = .ok ()) (hasync : d.checkAsync = .ok ()) :
    d.readiness = .ready := by
  unfold checkThere at hthere
  unfold checkAsync at hasync
  cases hd : d.readiness <;> simp_all

theorem eq_of_ready : ∀ d ∈ all, d.readiness = .ready →
    d.dialect = "postgresql" ∧ d.name = "asyncpg" ∨
      d.dialect = "sqlite" ∧ d.name = "aiosqlite" := by
  decide

end Driver

namespace Backend

variable {a : Address} {b : Backend}

theorem driver_of_withoutPlugins {a' : Address} (h : a.withoutPlugins = .ok a') :
    a'.driver = a.driver := by
  unfold Address.withoutPlugins at h
  split at h
  · cases h
    rfl
  · cases h

theorem ofAddress_eq_ok (h : ofAddress a = .ok b) : ∃ d, Driver.ofName a.driver = .ok d ∧
    d.readiness = .ready ∧ b.dialect = d.dialect ∧ b.driver = d.name := by
  simp only [ofAddress, bind_eq_ok_iff, pure_eq_ok_iff] at h
  obtain ⟨a', ha, d, hd, ⟨⟩, hthere, ⟨⟩, -, ⟨⟩, hasync, rfl⟩ := h
  rw [driver_of_withoutPlugins ha] at hd
  exact ⟨d, hd, Driver.ready_of_checks hthere hasync, rfl, rfl⟩

theorem ofUrl_eq_ok {url : String} (h : ofUrl url = .ok b) :
    ∃ a, Address.read url = .ok a ∧ ofAddress a = .ok b := by
  unfold ofUrl at h
  split at h
  case h_1 => cases h
  case h_2 a ha => exact ⟨a, ha, h⟩

/-- **The drivers that are known are what the program relies on.** -/
theorem isLibrary_ofUrl : IsLibrary ofUrl where
  dialect url b h := by
    obtain ⟨a, ha, hb⟩ := ofUrl_eq_ok h
    obtain ⟨d, hd, -, hdialect, -⟩ := ofAddress_eq_ok hb
    obtain ⟨hchars, rest, hurl⟩ := Address.read_eq_ok ha
    have hcolon : ':' ∉ a.driver := fun hmem => absurd (hchars _ hmem) (by decide)
    rw [hdialect, (Driver.ofName_eq_ok hd).2, hurl, takeWhile_isDialectChar hcolon]
  driver url b h := by
    obtain ⟨a, -, hb⟩ := ofUrl_eq_ok h
    obtain ⟨d, hd, hready, hdialect, hname⟩ := ofAddress_eq_ok hb
    rw [hdialect, hname]
    exact Driver.eq_of_ready d (Driver.ofName_eq_ok hd).1 hready

end Backend

/-! ## Locks -/

namespace Lock

/-- Two transitions share statements, and have some, exactly where they concern one pair. -/
def Separates (lock : Int → Int → Except Fault (List Statement)) : Prop :=
  ∀ a b, ∃ ss, lock a b = .ok ss ∧ ss ≠ [] ∧ ∀ c d, lock c d = .ok ss ↔ key c d = key a b

theorem statements_postgresql {timeout : Int} (h : Decimal.isLong timeout = false) (a b : Int) :
    statements "postgresql" timeout a b =
      .ok [⟨"SET LOCAL lock_timeout = " ++ toString timeout, []⟩,
        ⟨"SELECT pg_advisory_xact_lock", [(key a b).1, (key a b).2]⟩] := by
  rw [statements, if_neg (by simp), Decimal.written, h]
  rfl

theorem separates_statements {timeout : Int} (h : Decimal.isLong timeout = false) :
    Separates (statements "postgresql" timeout) := by
  refine fun a b => ⟨_, statements_postgresql h a b, List.cons_ne_nil _ _, fun c d => ?_⟩
  rw [statements_postgresql h c d]
  simp [Prod.ext_iff]

end Lock

/-! ## Engines -/

namespace Engine

variable {ε : Type} {connect : String → Except ε Backend} {s : Settings} {url : String} {e : Engine}

theorem ofUrl_eq_ok (h : ofUrl connect url = .ok e) : connect (withDriver url) = .ok e.toBackend ∧
    e.tuning = tuningOf (withDriver url) ∧ e.cloud = false := by
  obtain ⟨b, hb, he⟩ := bind_eq_ok_iff.1 h
  rw [← pure_eq_ok_iff.1 he]
  exact ⟨hb, rfl, rfl⟩

/-- **A URL that names PostgreSQL alone leads to the asynchronous driver.** -/
theorem ofUrl_plain (rest : String) :
    ofUrl connect (plainStart ++ rest) = ofUrl connect (asyncStart ++ rest) := by
  unfold ofUrl
  rw [withDriver_plain, withDriver_async]

theorem ofCloud_eq_ok (h : ofCloud connect = .ok e) : connect asyncStart = .ok e.toBackend ∧
    e.tuning = .pooled ∧ e.cloud = true := by
  obtain ⟨b, hb, he⟩ := bind_eq_ok_iff.1 h
  rw [← pure_eq_ok_iff.1 he]
  exact ⟨hb, rfl, rfl⟩

theorem sqlite_prefix_iff {b : Backend} (hc : IsLibrary connect) (hb : connect url = .ok b) :
    "sqlite".toList <+: url.toList ↔ b.dialect = "sqlite" := by
  have hdialect := hc.dialect url b hb
  constructor
  · rintro ⟨rest, hrest⟩
    rw [← hrest, List.takeWhile_append_of_pos (List.all_eq_true.1 (by decide))] at hdialect
    rcases hc.driver url b hb with ⟨hname, -⟩ | ⟨hname, -⟩
    · rw [hname] at hdialect
      cases hdialect
    · exact hname
  · intro h
    rw [h] at hdialect
    exact hdialect ▸ List.takeWhile_prefix _

theorem ofUrl_cases (hc : IsLibrary connect) (h : ofUrl connect url = .ok e) :
    e.dialect = "sqlite" ∧ e.tuning = .immediate ∨
      e.dialect = "postgresql" ∧ e.tuning = .pooled := by
  obtain ⟨hb, htuning, -⟩ := ofUrl_eq_ok h
  have himmediate : e.tuning = .immediate ↔ e.dialect = "sqlite" := by
    rw [htuning, tuningOf_eq_immediate_iff, sqlite_prefix_iff hc hb]
  rcases hc.driver _ _ hb with ⟨hname, -⟩ | ⟨hname, -⟩
  · refine Or.inr ⟨hname, ?_⟩
    cases ht : e.tuning with
    | pooled => rfl
    | immediate =>
      rw [himmediate.1 ht] at hname
      exact absurd hname (by decide)
  · exact Or.inl ⟨hname, himmediate.2 hname⟩

theorem ofCloud_cases (hc : IsLibrary connect) (h : ofCloud connect = .ok e) :
    e.dialect = "postgresql" ∧ e.tuning = .pooled := by
  obtain ⟨hb, htuning, -⟩ := ofCloud_eq_ok h
  have hdialect : e.dialect.toList = "postgresql".toList := hc.dialect _ _ hb
  exact ⟨String.toList_inj.1 hdialect, htuning⟩

theorem cloud_of_ofSettings (h : ofSettings connect s = .ok e) : e.cloud = wantsCloud s := by
  unfold ofSettings at h
  cases hcloud : wantsCloud s <;> rw [hcloud] at h
  · exact (ofUrl_eq_ok h).2.2
  · exact (ofCloud_eq_ok h).2.2

/-- **Every engine keeps the transitions on one pair apart.** On SQLite a transaction has the lock
of the writer from where it begins. On PostgreSQL a transition has statements that it shares with
another exactly where they concern one pair, whatever timeout has been read. -/
theorem keeps_pairs_apart {env : Environment} (hc : IsLibrary connect)
    (hread : Settings.read env = .ok s) (h : ofSettings connect s = .ok e) :
    e.dialect = "sqlite" ∧ e.tuning = .immediate ∨
      e.dialect = "postgresql" ∧ e.tuning = .pooled ∧
        Lock.Separates (Lock.statements e.dialect s.lockTimeout) := by
  have hlock := Lock.separates_statements (Settings.isSound_of_read hread).isLong
  unfold ofSettings at h
  split at h
  · obtain ⟨hdialect, htuning⟩ := ofCloud_cases hc h
    exact Or.inr ⟨hdialect, htuning, hdialect ▸ hlock⟩
  · rcases ofUrl_cases hc h with hsqlite | ⟨hdialect, htuning⟩
    · exact Or.inl hsqlite
    · exact Or.inr ⟨hdialect, htuning, hdialect ▸ hlock⟩

end Engine

end Matchmaker
