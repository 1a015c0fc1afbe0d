import ItemQuery.Proofs.Checks
import ItemQuery.Store.Settings

/-!
# `Proofs.Store.Settings` — what setters leave behind

Setters may be called in any order and more than once, and what counts is the last call for a setting. A `Setting` is
one of the eight with the setter that gives it and the place where a draft holds it; that a setter changes what it gives
and nothing else is part of it, so that one step lemma and one induction serve all of them (`Setting.held_run`).

Timeouts are given as durations and kept in whole seconds. What is left of a further second is dropped, so that a
duration comes back as it was given exactly if it is a number of seconds (`KeepsTimeout`).

## Contents
- `Settings.checks`, `Settings.validate_eq_error_iff`: what settings are refused for, in order.
- `Duration.whole`: a duration without the fraction of a second.
- `Setting`, `Setting.last`, `Setting.held_run`: what a setting was given last.
- `Settings.KeepsLast`, `Draft.keepsLast`: settings that keep it.
- `Draft.build_keeps_last`: the whole, and `Draft.build_drops_fractions`, what is lost.
-/

namespace ItemQuery.Store

/-! ## The checks of settings -/

namespace Settings

variable {s : Settings} {fault : StoreFault}

/-- **All that settings can be refused for**, in the order in which it is reported. -/
def checks (s : Settings) : List (StoreFault → Prop) := [
  fun e => s.database = "" ∧ e = .config "database name is required",
  fun e => s.collection = "" ∧ e = .config "collection name is required",
  fun e => s.defaultLimit ≤ 0 ∧ e = .config ("default_limit must be positive, got " ++ s.defaultLimit.toInt.repr)]

/-- What no check is against: names for the database and the collection, and a positive limit. -/
def Acceptable (s : Settings) : Prop := s.database ≠ "" ∧ s.collection ≠ "" ∧ 0 < s.defaultLimit

/-- **The checks of settings** are made in their order. -/
theorem validate_eq_error_iff : s.validate = .error fault ↔ FirstFault s.checks fault := by
  unfold checks validate
  rw [firstFault_guard_iff, firstFault_guard_iff, firstFault_guard_iff]
  split
  · rw [Except.error.injEq, eq_comm]
  split
  · rw [Except.error.injEq, eq_comm]
  split
  · rw [Except.error.injEq, eq_comm]
  · simp [not_firstFault_nil]

theorem validate_eq_ok_iff : s.validate = .ok () ↔ s.Acceptable := by
  unfold Acceptable validate
  split
  · simp_all
  split
  · simp_all
  split
  · rename_i hlimit
    simp [Int64.not_lt.mpr hlimit]
  · rename_i hdatabase hcollection hlimit
    simp [hdatabase, hcollection, Int64.not_le.mp hlimit]

end Settings

/-! ## Durations in whole seconds -/

namespace Duration

/-- The duration without what is left of a further second. -/
def whole (d : Duration) : Duration := ofSeconds d.seconds

theorem whole_ofSeconds (n : Nat) : (ofSeconds n).whole = ofSeconds n := by
  simp [whole]

theorem ofSeconds_injective {m n : Nat} (h : ofSeconds m = ofSeconds n) : m = n := by
  have hseconds := congrArg seconds h
  simpa using hseconds

end Duration

/-! ## What a setting was given last -/

/-- **One of the settings**: the setter that gives it a value, and where a draft holds it. A setter changes what it
    gives; whatever it does not give, it leaves alone. For each of the settings this is seen setter by setter. -/
structure Setting (α : Type) where
  make : α → Setter
  given : Setter → Option α
  held : Draft → Option α
  given_iff : ∀ {s v}, given s = some v ↔ s = make v := by
    intro s v
    cases s <;> simp
  held_empty : held {} = none := by rfl
  held_set : ∀ d s, held (d.set s) = (given s).or (held d) := by
    intro d s
    cases s <;> rfl

namespace Setting

variable {α : Type} {f : Setting α} {setters : List Setter} {v : α}

/-- The value that setters gave last, if they gave any. -/
def last (f : Setting α) (setters : List Setter) : Option α := (setters.filterMap f.given).getLast?

theorem last_cons (s : Setter) (setters : List Setter) :
    f.last (s :: setters) = (f.last setters).or (f.given s) := by
  unfold last
  cases hgiven : f.given s with
  | none => rw [List.filterMap_cons_none hgiven, Option.or_none]
  | some v =>
      rw [List.filterMap_cons_some hgiven, List.getLast?_cons]
      cases (setters.filterMap f.given).getLast? with
      | none => rfl
      | some w => rfl

/-- Nothing was given exactly if its setter was not called. -/
theorem last_eq_none_iff : f.last setters = none ↔ ∀ v, f.make v ∉ setters := by
  rw [last, List.getLast?_eq_none_iff, List.filterMap_eq_nil_iff]
  constructor
  · intro h v hmem
    have hgiven : f.given (f.make v) = some v := f.given_iff.mpr rfl
    rw [h _ hmem] at hgiven
    exact nomatch hgiven
  · intro h s hs
    cases hgiven : f.given s with
    | none => rfl
    | some v =>
        rw [f.given_iff.mp hgiven] at hs
        exact absurd hs (h v)

/-- **The last value** is the one of a call with none after it. -/
theorem last_eq_some_iff :
    f.last setters = some v ↔
      ∃ before after, setters = before ++ f.make v :: after ∧ ∀ w, f.make w ∉ after := by
  induction setters with
  | nil => simp [last]
  | cons s setters ih =>
      rw [last_cons, Option.or_eq_some_iff, ih]
      constructor
      · rintro (⟨before, after, rfl, hafter⟩ | ⟨hnone, hgiven⟩)
        · exact ⟨s :: before, after, rfl, hafter⟩
        · exact ⟨[], setters, by rw [f.given_iff.mp hgiven]; rfl, last_eq_none_iff.mp hnone⟩
      · rintro ⟨before, after, hsplit, hafter⟩
        cases before with
        | nil =>
            obtain ⟨rfl, rfl⟩ := List.cons.inj hsplit
            exact .inr ⟨last_eq_none_iff.mpr hafter, f.given_iff.mpr rfl⟩
        | cons _ before =>
            obtain ⟨rfl, rfl⟩ := List.cons.inj hsplit
            exact .inl ⟨before, after, rfl, hafter⟩

/-- **A run of setters**: a draft holds what was given last, else what it held before. -/
theorem held_run (f : Setting α) (d : Draft) (setters : List Setter) :
    f.held (setters.foldl Draft.set d) = (f.last setters).or (f.held d) := by
  induction setters generalizing d with
  | nil => rfl
  | cons s setters ih => rw [List.foldl_cons, ih, f.held_set, last_cons, Option.or_assoc]

/-- At the start a draft holds nothing. -/
theorem held_run_empty (f : Setting α) (setters : List Setter) :
    f.held (setters.foldl Draft.set {}) = f.last setters := by
  rw [held_run, f.held_empty, Option.or_none]

/-! ### The eight -/

def uri : Setting String where
  make := .uri
  given | .uri s => some s | _ => none
  held := Draft.uri

def database : Setting String where
  make := .database
  given | .database s => some s | _ => none
  held := Draft.database

def collection : Setting String where
  make := .collection
  given | .collection s => some s | _ => none
  held := Draft.collection

def appName : Setting String where
  make := .appName
  given | .appName s => some s | _ => none
  held := Draft.appName

def maxPoolSize : Setting Nat where
  make := .maxPoolSize
  given | .maxPoolSize n => some n | _ => none
  held := Draft.maxPoolSize

def connectTimeout : Setting Duration where
  make := .connectTimeout
  given | .connectTimeout t => some t | _ => none
  held := Draft.connectTimeout

def selectionTimeout : Setting Duration where
  make := .selectionTimeout
  given | .selectionTimeout t => some t | _ => none
  held := Draft.selectionTimeout

def defaultLimit : Setting Int64 where
  make := .defaultLimit
  given | .defaultLimit n => some n | _ => none
  held := Draft.defaultLimit

end Setting

/-! ## Settings that keep what was given last -/

/-- **A timeout keeps the whole seconds** of the duration that it was given, else it has its default. Nothing is lost of
    a number of seconds, and never all of a second or more. -/
structure KeepsTimeout (given timeout dflt : Option Duration) : Prop where
  seconds : timeout = (given.map .whole).or dflt
  exact : ∀ n, given = some (.ofSeconds n) → timeout = given
  nonzero : ∀ d, given = some d → 1 ≤ d.seconds → timeout ≠ some (.ofSeconds 0)

/-- The seconds that are kept of a timeout, as a duration again. -/
theorem map_seconds (given : Option Duration) (dflt : Option Nat) :
    (given.map Duration.seconds <|> dflt).map Duration.ofSeconds =
      (given.map Duration.whole).or (dflt.map Duration.ofSeconds) := by
  cases given with
  | none => rfl
  | some d => rfl

theorem keepsTimeout_seconds (given : Option Duration) (dflt : Option Nat) :
    KeepsTimeout given ((given.map Duration.seconds <|> dflt).map .ofSeconds) (dflt.map .ofSeconds) := by
  rw [map_seconds]
  constructor
  case seconds => rfl
  case exact =>
    intro n h
    rw [h]
    exact congrArg some (Duration.whole_ofSeconds n)
  case nonzero =>
    intro d h hd hzero
    rw [h] at hzero
    have hseconds : d.seconds = 0 := Duration.ofSeconds_injective (Option.some.inj hzero)
    omega

/-- **Settings keep what setters gave last**, each of the eight, and have their default where they gave nothing. -/
structure Settings.KeepsLast (setters : List Setter) (s : Settings) : Prop where
  uri : s.uri = (Setting.uri.last setters).getD ({} : Settings).uri
  database : s.database = (Setting.database.last setters).getD ({} : Settings).database
  collection : s.collection = (Setting.collection.last setters).getD ({} : Settings).collection
  appName : s.appName = (Setting.appName.last setters).or ({} : Settings).appName
  maxPoolSize : s.maxPoolSize = (Setting.maxPoolSize.last setters).or ({} : Settings).maxPoolSize
  connectTimeout :
    KeepsTimeout (Setting.connectTimeout.last setters) s.connectTimeout ({} : Settings).connectTimeout
  selectionTimeout :
    KeepsTimeout (Setting.selectionTimeout.last setters) s.selectionTimeout ({} : Settings).selectionTimeout
  defaultLimit : s.defaultLimit = (Setting.defaultLimit.last setters).getD ({} : Settings).defaultLimit

namespace Draft

variable {setters : List Setter} {s : Settings} {fault : StoreFault}

/-- The settings that setters ask for, whether they are acceptable or not. -/
def finish (setters : List Setter) : Settings := (setters.foldl set {}).settings

/-- **What setters ask for** is what they gave last. -/
theorem keepsLast (setters : List Setter) : (finish setters).KeepsLast setters := by
  constructor
  case connectTimeout =>
    rw [← Setting.connectTimeout.held_run_empty]
    exact keepsTimeout_seconds _ _
  case selectionTimeout =>
    rw [← Setting.selectionTimeout.held_run_empty]
    exact keepsTimeout_seconds _ _
  case appName =>
    rw [← Setting.held_run_empty]
    exact Option.orElse_eq_or
  case maxPoolSize =>
    rw [← Setting.held_run_empty]
    exact Option.orElse_eq_or
  -- what is always there
  all_goals
    rw [← Setting.held_run_empty]
    rfl

theorem build_eq (setters : List Setter) :
    build setters = (finish setters).validate >>= fun _ => .ok (finish setters) := rfl

theorem build_eq_ok_iff : build setters = .ok s ↔ s = finish setters ∧ (finish setters).Acceptable := by
  rw [build_eq, ← Settings.validate_eq_ok_iff]
  cases hvalid : (finish setters).validate with
  | error e =>
      constructor
      · intro h
        exact nomatch h
      · rintro ⟨_, h⟩
        exact nomatch h
  | ok u =>
      constructor
      · intro h
        exact ⟨(Except.ok.inj h).symm, rfl⟩
      · rintro ⟨rfl, _⟩
        rfl

theorem build_eq_error_iff : build setters = .error fault ↔ FirstFault (finish setters).checks fault := by
  rw [build_eq, ← Settings.validate_eq_error_iff]
  cases hvalid : (finish setters).validate with
  | error e =>
      have herror : ((Except.error e : Except StoreFault Unit) >>= fun _ => .ok (finish setters)) = .error e := rfl
      rw [herror, Except.error.injEq, Except.error.injEq]
  | ok u =>
      constructor
      · intro h
        exact nomatch h
      · intro h
        exact nomatch h

/-- **The last call for each setting counts.** From any setters in any order come settings that keep what was given last
    and have defaults for the rest. They are the result exactly if their names are not empty and their limit is positive;
    else the first of these checks that fails is the fault. -/
theorem build_keeps_last (setters : List Setter) :
    ∃ final : Settings, final.KeepsLast setters ∧
      (∀ s, build setters = .ok s ↔
        s = final ∧ final.database ≠ "" ∧ final.collection ≠ "" ∧ 0 < final.defaultLimit) ∧
      ∀ fault, build setters = .error fault ↔ FirstFault final.checks fault :=
  ⟨finish setters, keepsLast setters, fun _ => build_eq_ok_iff, fun _ => build_eq_error_iff⟩

/-- **A fraction of a second is lost**, and half a second is no time at all afterwards. -/
theorem build_drops_fractions :
    let setters : List Setter := [.connectTimeout (.ofMillis 1500), .selectionTimeout (.ofMillis 500)]
    ∃ s, build setters = .ok s ∧ s.connectTimeout ≠ Setting.connectTimeout.last setters ∧
      s.selectionTimeout = some (.ofSeconds 0) ∧ Setting.selectionTimeout.last setters ≠ some (.ofSeconds 0) :=
  ⟨_, rfl, by decide, rfl, by decide⟩

end Draft

end ItemQuery.Store
