import TokenFactory.Contract

/-!
# The denom grammar

What `validate_denom` accepts, said without its split and without its case-insensitive
comparison: a head that spells `factory` with each letter in lower or upper case, then a creator
and a subdenom, with no other `/`, and the resolver's acceptance of that pair. The resolver is consulted only for denoms of this shape, once, with exactly that pair.
`FactoryDenom` carries the shape as fields; printing and parsing it are inverse.
-/

set_option autoImplicit false

namespace TokenFactory

/-- `head` spells `factory`, each letter in lower or ASCII upper case. -/
def SpellsFactory (head : String) : Prop :=
  List.Forall₂ (fun c l => c = l ∨ c = l.toUpper) head.data "factory".data

instance (head : String) : Decidable (SpellsFactory head) :=
  inferInstanceAs (Decidable (List.Forall₂ _ _ _))

/-- `denom` is `head/creator/subdenom` with a head that spells `factory`: what `validate_denom`
checks before it asks the resolver. -/
def FactoryShape (denom creator subdenom : String) : Prop :=
  ∃ head, DenomSegments denom head creator subdenom ∧ SpellsFactory head

theorem factory_lower : ∀ l ∈ "factory".data, l.isLower = true := by decide

/-- The head check accepts exactly the spellings of `factory` with each letter in lower or ASCII
upper case: seven characters, the `i`-th the `i`-th letter of `factory` or its capital. -/
theorem eqIgnoreAsciiCase_factory_iff (head : String) :
    eqIgnoreAsciiCase head "factory" = true ↔
      List.Forall₂ (fun c l => c = l ∨ c = l.toUpper) head.data "factory".data :=
  eqIgnoreAsciiCase_iff_forall₂ factory_lower head

example : eqIgnoreAsciiCase "fAcToRy" "factory" = true ∧ eqIgnoreAsciiCase "factor" "factory" = false :=
  by decide

theorem FactoryShape.unique {denom creator subdenom creator' subdenom' : String}
    (shape : FactoryShape denom creator subdenom) (shape' : FactoryShape denom creator' subdenom') :
    creator = creator' ∧ subdenom = subdenom' :=
  let ⟨_, segments, _⟩ := shape
  let ⟨_, segments', _⟩ := shape'
  (segments.unique segments').2

def partCountMessage (parts : Nat) : String :=
  "denom must have 3 parts separated by /, had " ++ toString parts

def resolverVerdict (denom : String) : Except StdError FullDenomResponse →
    Except TokenFactoryError Unit
  | .ok _ => .ok ()
  | .error error => .error (.invalidDenom denom error.text)

/-!
## What one validation can do
-/

section Outcomes

variable {deps : Deps} {denom : String} {calls : List HostCall}

theorem validateDenom_run_cases (deps : Deps) (denom : String) (calls : List HostCall) :
    (denom.data.count '/' ≠ 2 ∧ (validateDenom deps denom).run.run calls =
      (.error (.invalidDenom denom (partCountMessage (denom.data.count '/' + 1))), calls)) ∨
    (∃ head creator subdenom, DenomSegments denom head creator subdenom ∧
      eqIgnoreAsciiCase head "factory" = false ∧ (validateDenom deps denom).run.run calls =
        (.error (.invalidDenom denom ("prefix must be 'factory', was " ++ head)), calls)) ∨
    (∃ creator subdenom, FactoryShape denom creator subdenom ∧
      (validateDenom deps denom).run.run calls =
        (resolverVerdict denom (deps.querier.fullDenom creator subdenom),
          calls ++ [.fullDenom creator subdenom])) := by
  by_cases parts : (denom.split (· == '/')).length = 3
  · obtain ⟨head, creator, subdenom, split⟩ := List.length_eq_three.mp parts
    have segments := split_slash_eq_three_iff.mp split
    cases factory : eqIgnoreAsciiCase head "factory"
    · exact .inr (.inl ⟨head, creator, subdenom, segments, factory,
        validateDenom_run_of_not_factory split factory⟩)
    · refine .inr (.inr ⟨creator, subdenom,
        ⟨head, segments, (eqIgnoreAsciiCase_iff_forall₂ factory_lower head).mp factory⟩, ?_⟩)
      rw [validateDenom_run_of_factory split factory]
      cases deps.querier.fullDenom creator subdenom <;> rfl
  · rw [length_split_slash] at parts
    refine .inl ⟨by omega, ?_⟩
    rw [validateDenom_run_of_length_ne (by rwa [length_split_slash]), length_split_slash]
    rfl

theorem validateDenom_run_of_shape {creator subdenom : String}
    (shape : FactoryShape denom creator subdenom) :
    (validateDenom deps denom).run.run calls =
      (resolverVerdict denom (deps.querier.fullDenom creator subdenom),
        calls ++ [.fullDenom creator subdenom]) := by
  rcases validateDenom_run_cases deps denom calls with
    ⟨count, _⟩ | ⟨head, _, _, segments, notFactory, _⟩ | ⟨creator', subdenom', shape', run⟩
  · obtain ⟨_, segments, _⟩ := shape
    exact absurd (count_slash_eq_two_iff.mpr ⟨_, _, _, segments⟩) count
  · obtain ⟨head', segments', factory⟩ := shape
    obtain ⟨rfl, -, -⟩ := segments.unique segments'
    simp [(eqIgnoreAsciiCase_iff_forall₂ factory_lower head).mpr factory] at notFactory
  · obtain ⟨rfl, rfl⟩ := shape'.unique shape
    exact run

theorem validateDenom_run_of_not_shape
    (noShape : ∀ creator subdenom, ¬ FactoryShape denom creator subdenom) :
    ∃ message, (validateDenom deps denom).run.run calls =
      (.error (.invalidDenom denom message), calls) := by
  rcases validateDenom_run_cases deps denom calls with
    ⟨_, run⟩ | ⟨_, _, _, _, _, run⟩ | ⟨creator, subdenom, shape, _⟩
  · exact ⟨_, run⟩
  · exact ⟨_, run⟩
  · exact absurd shape (noShape creator subdenom)

private theorem resolverVerdict_eq_ok_iff {answer : Except StdError FullDenomResponse} :
    resolverVerdict denom answer = .ok () ↔ ∃ response, answer = .ok response := by
  cases answer <;> simp [resolverVerdict]

theorem validateDenom_ok_iff :
    ((validateDenom deps denom).run.run calls).1 = .ok () ↔
      ∃ creator subdenom, FactoryShape denom creator subdenom ∧
        ∃ response, deps.querier.fullDenom creator subdenom = .ok response := by
  by_cases shaped : ∃ creator subdenom, FactoryShape denom creator subdenom
  · obtain ⟨creator, subdenom, shape⟩ := shaped
    rw [validateDenom_run_of_shape shape, resolverVerdict_eq_ok_iff]
    constructor
    · exact fun accepted => ⟨creator, subdenom, shape, accepted⟩
    · rintro ⟨creator', subdenom', shape', accepted⟩
      obtain ⟨rfl, rfl⟩ := shape'.unique shape
      exact accepted
  · simp only [not_exists] at shaped
    obtain ⟨message, run⟩ := validateDenom_run_of_not_shape shaped
    rw [run]
    constructor
    · nofun
    · rintro ⟨creator, subdenom, shape, -⟩
      exact absurd shape (shaped creator subdenom)

theorem validateDenom_calls :
    (∃ creator subdenom, FactoryShape denom creator subdenom ∧
        ((validateDenom deps denom).run.run calls).2 = calls ++ [.fullDenom creator subdenom]) ∨
      ((∀ creator subdenom, ¬ FactoryShape denom creator subdenom) ∧
        ((validateDenom deps denom).run.run calls).2 = calls) := by
  by_cases shaped : ∃ creator subdenom, FactoryShape denom creator subdenom
  · obtain ⟨creator, subdenom, shape⟩ := shaped
    exact .inl ⟨creator, subdenom, shape, by rw [validateDenom_run_of_shape shape]⟩
  · simp only [not_exists] at shaped
    obtain ⟨message, run⟩ := validateDenom_run_of_not_shape shaped
    exact .inr ⟨shaped, by rw [run]⟩

theorem validateDenom_error_names_denom {error : TokenFactoryError}
    (rejected : ((validateDenom deps denom).run.run calls).1 = .error error) :
    ∃ message, error = .invalidDenom denom message := by
  by_cases shaped : ∃ creator subdenom, FactoryShape denom creator subdenom
  · obtain ⟨creator, subdenom, shape⟩ := shaped
    rw [validateDenom_run_of_shape shape] at rejected
    cases answer : deps.querier.fullDenom creator subdenom <;>
      simp [answer, resolverVerdict] at rejected
    exact ⟨_, rejected.symm⟩
  · simp only [not_exists] at shaped
    obtain ⟨message, run⟩ := validateDenom_run_of_not_shape shaped
    rw [run] at rejected
    cases rejected
    exact ⟨message, rfl⟩

end Outcomes

/-- `validate_denom` accepts exactly the factory shape over a pair the resolver accepts, and
consults the resolver only for a denom of that shape. -/
theorem validateDenom_accepts_exactly_its_grammar (deps : Deps) (denom : String) :
    ((validateDenom deps denom).invoke.1 = .ok () ↔
      ∃ creator subdenom, FactoryShape denom creator subdenom ∧
        ∃ response, deps.querier.fullDenom creator subdenom = .ok response) ∧
    ((∃ creator subdenom, FactoryShape denom creator subdenom ∧
        (validateDenom deps denom).invoke.2 = [.fullDenom creator subdenom]) ∨
      ((∀ creator subdenom, ¬ FactoryShape denom creator subdenom) ∧
        (validateDenom deps denom).invoke.2 = [])) ∧
    (denom.data.count '/' ≠ 2 →
      (validateDenom deps denom).invoke =
        (.error (.invalidDenom denom (partCountMessage (denom.data.count '/' + 1))), [])) ∧
    (∀ error, (validateDenom deps denom).invoke.1 = .error error →
      ∃ message, error = .invalidDenom denom message) := by
  refine ⟨validateDenom_ok_iff, validateDenom_calls, fun count => ?_,
    fun _ rejected => validateDenom_error_names_denom rejected⟩
  rcases validateDenom_run_cases deps denom [] with
    ⟨_, run⟩ | ⟨_, _, _, segments, _, _⟩ | ⟨_, _, ⟨_, segments, _⟩, _⟩
  · exact run
  all_goals exact absurd (count_slash_eq_two_iff.mpr ⟨_, _, _, segments⟩) count

/-!
## Factory denoms

The grammar as a type: a value of `FactoryDenom` is a well-formed denom by construction, and the
denoms `validate_denom` accepts are exactly the printed ones whose pair the resolver accepts.
-/

/-- A denom of the factory grammar, carrying its well-formedness. -/
structure FactoryDenom where
  head : String
  creator : String
  subdenom : String
  head_factory : SpellsFactory head
  creator_free : '/' ∉ creator.data
  subdenom_free : '/' ∉ subdenom.data

namespace FactoryDenom

theorem head_free (d : FactoryDenom) : '/' ∉ d.head.data := by
  intro slash
  have lowered := List.mem_map_of_mem Char.toLower slash
  have factory := (eqIgnoreAsciiCase_iff_forall₂ factory_lower _).mpr d.head_factory
  simp only [eqIgnoreAsciiCase, beq_iff_eq] at factory
  rw [factory] at lowered
  revert lowered
  decide

def toString (d : FactoryDenom) : String :=
  d.head ++ "/" ++ d.creator ++ "/" ++ d.subdenom

theorem shape (d : FactoryDenom) : FactoryShape d.toString d.creator d.subdenom :=
  ⟨d.head, ⟨rfl, d.head_free, d.creator_free, d.subdenom_free⟩, d.head_factory⟩

theorem exists_of_shape {denom creator subdenom : String}
    (shape : FactoryShape denom creator subdenom) :
    ∃ d : FactoryDenom, d.toString = denom ∧ d.creator = creator ∧ d.subdenom = subdenom :=
  let ⟨head, segments, factory⟩ := shape
  ⟨⟨head, creator, subdenom, factory, segments.creator_free, segments.subdenom_free⟩,
    segments.eq_join.symm, rfl, rfl⟩

end FactoryDenom

theorem validateDenom_ok_iff_printed (deps : Deps) (denom : String) (calls : List HostCall) :
    ((validateDenom deps denom).run.run calls).1 = .ok () ↔
      ∃ d : FactoryDenom, d.toString = denom ∧
        ∃ response, deps.querier.fullDenom d.creator d.subdenom = .ok response := by
  rw [validateDenom_ok_iff]
  constructor
  · rintro ⟨creator, subdenom, shape, accepted⟩
    obtain ⟨d, printed, rfl, rfl⟩ := FactoryDenom.exists_of_shape shape
    exact ⟨d, printed, accepted⟩
  · rintro ⟨d, rfl, accepted⟩
    exact ⟨d.creator, d.subdenom, d.shape, accepted⟩

/-!
## Parsing

`validate_denom` is a parse followed by one resolver call. The parse is its split, part count and
head check, with the same messages; it returns a `FactoryDenom`, so what it accepts is well formed
by construction, and it is the inverse of printing.
-/

/-- The parsing half of `validate_denom`: three `/`-separated parts and a head that is `factory` up
to ASCII case, or the message `validate_denom` reports. -/
def FactoryDenom.parse (denom : String) : Except String FactoryDenom :=
  match split : denom.split (· == '/') with
  | [head, creator, subdenom] =>
    if factory : eqIgnoreAsciiCase head "factory" = true then
      have segments := split_slash_eq_three_iff.mp split
      .ok ⟨head, creator, subdenom, (eqIgnoreAsciiCase_iff_forall₂ factory_lower head).mp factory,
        segments.creator_free, segments.subdenom_free⟩
    else .error ("prefix must be 'factory', was " ++ head)
  | parts => .error (partCountMessage parts.length)

def FactoryDenom.resolverCall (d : FactoryDenom) : HostCall :=
  .fullDenom d.creator d.subdenom

namespace FactoryDenom

theorem toString_split (d : FactoryDenom) :
    d.toString.split (· == '/') = [d.head, d.creator, d.subdenom] :=
  split_slash_eq_three_iff.mpr ⟨rfl, d.head_free, d.creator_free, d.subdenom_free⟩

theorem parse_eq_ok_iff {denom : String} {d : FactoryDenom} :
    parse denom = .ok d ↔ d.toString = denom := by
  constructor
  · unfold parse
    split
    · rename_i head creator subdenom split
      split
      · rintro ⟨⟩
        exact (split_slash_eq_three_iff.mp split).eq_join.symm
      · nofun
    · nofun
  · rintro rfl
    unfold parse
    split
    · rename_i head creator subdenom split
      rw [toString_split] at split
      simp only [List.cons.injEq, and_true] at split
      obtain ⟨rfl, rfl, rfl⟩ := split
      rw [dif_pos ((eqIgnoreAsciiCase_iff_forall₂ factory_lower _).mpr d.head_factory)]
    · rename_i notThree
      exact absurd (toString_split d) (notThree _ _ _)

theorem parse_error_cases {denom message : String} (rejected : parse denom = .error message) :
    (denom.data.count '/' ≠ 2 ∧ message = partCountMessage (denom.data.count '/' + 1)) ∨
      ∃ head creator subdenom, DenomSegments denom head creator subdenom ∧
        eqIgnoreAsciiCase head "factory" = false ∧
        message = "prefix must be 'factory', was " ++ head := by
  unfold parse at rejected
  split at rejected
  · rename_i head creator subdenom split
    split at rejected
    · cases rejected
    · cases rejected
      exact .inr ⟨head, creator, subdenom, split_slash_eq_three_iff.mp split, by simp_all, rfl⟩
  · rename_i notThree
    cases rejected
    have parts : (denom.split (· == '/')).length ≠ 3 := fun three =>
      let ⟨head, creator, subdenom, split⟩ := List.length_eq_three.mp three
      notThree head creator subdenom split
    rw [length_split_slash] at parts ⊢
    exact .inl ⟨by omega, rfl⟩

end FactoryDenom

/-- `validate_denom` is its parse followed, on success only, by one resolver call for the parsed
pair. -/
theorem validateDenom_run_eq_parse (deps : Deps) (denom : String) (calls : List HostCall) :
    (validateDenom deps denom).run.run calls =
      match FactoryDenom.parse denom with
      | .error message => (.error (.invalidDenom denom message), calls)
      | .ok d => (resolverVerdict denom (deps.querier.fullDenom d.creator d.subdenom),
          calls ++ [d.resolverCall]) := by
  cases parsed : FactoryDenom.parse denom with
  | ok d =>
    rw [FactoryDenom.parse_eq_ok_iff] at parsed
    subst parsed
    exact validateDenom_run_of_shape d.shape
  | error message =>
    rcases FactoryDenom.parse_error_cases parsed with
      ⟨count, rfl⟩ | ⟨head, creator, subdenom, segments, notFactory, rfl⟩
    · rw [validateDenom_run_of_length_ne (by rw [length_split_slash]; omega), length_split_slash]
      rfl
    · exact validateDenom_run_of_not_factory (split_slash_eq_three_iff.mpr segments) notFactory

/-- Parsing inverts printing, and `validate_denom` is the parse followed by one resolver call
for the parsed pair. -/
theorem validateDenom_parses_then_resolves (deps : Deps) (denom : String) (calls : List HostCall) :
    (∀ d : FactoryDenom, FactoryDenom.parse denom = .ok d ↔ d.toString = denom) ∧
    (∀ message, FactoryDenom.parse denom = .error message →
      (denom.data.count '/' ≠ 2 ∧ message = partCountMessage (denom.data.count '/' + 1)) ∨
        ∃ head creator subdenom, DenomSegments denom head creator subdenom ∧
          eqIgnoreAsciiCase head "factory" = false ∧
          message = "prefix must be 'factory', was " ++ head) ∧
    (validateDenom deps denom).run.run calls =
      match FactoryDenom.parse denom with
      | .error message => (.error (.invalidDenom denom message), calls)
      | .ok d => (resolverVerdict denom (deps.querier.fullDenom d.creator d.subdenom),
          calls ++ [d.resolverCall]) :=
  ⟨fun _ => FactoryDenom.parse_eq_ok_iff, fun _ => FactoryDenom.parse_error_cases,
    validateDenom_run_eq_parse deps denom calls⟩

end TokenFactory
