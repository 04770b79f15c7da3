import TokenFactory.Dispatch

/-!
# Denoms of the issuing authority

The tests' resolver reports `factory/{creator}/{subdenom}` for a pair it accepts. Against a
resolver of that form, a created denom whose creator and subdenom hold no `/` is one the contract
can manage, and a denom `validate_denom` accepts is the reported one up to the ASCII case of its
head. The head's case is not normalised: the command's denom is forwarded as written.
-/

set_option autoImplicit false

namespace TokenFactory

/-- A resolver of the tests' form: wherever it accepts, it reports `fullDenomOf`. -/
def ReportsFullDenom (querier : TokenQuerier) : Prop :=
  ∀ creator subdenom response, querier.fullDenom creator subdenom = .ok response →
    response.denom = fullDenomOf creator subdenom

theorem fullDenomOf_segments {creator subdenom : String} (creatorFree : '/' ∉ creator.data)
    (subdenomFree : '/' ∉ subdenom.data) :
    DenomSegments (fullDenomOf creator subdenom) "factory" creator subdenom :=
  ⟨by simp only [fullDenomOf, String.append_assoc]; rfl, by decide, creatorFree, subdenomFree⟩

theorem fullDenomOf_shape {creator subdenom : String} (creatorFree : '/' ∉ creator.data)
    (subdenomFree : '/' ∉ subdenom.data) :
    FactoryShape (fullDenomOf creator subdenom) creator subdenom :=
  ⟨"factory", fullDenomOf_segments creatorFree subdenomFree, by decide⟩

/-!
## Created denoms are managed
-/

theorem denomValid_fullDenomOf {deps : Deps} {creator subdenom : String}
    (creatorFree : '/' ∉ creator.data) (subdenomFree : '/' ∉ subdenom.data)
    {response : FullDenomResponse} (resolves : deps.querier.fullDenom creator subdenom = .ok response) :
    (Check.denomValid (fullDenomOf creator subdenom)).Passes deps := by
  obtain ⟨d, printed, rfl, rfl⟩ :=
    FactoryDenom.exists_of_shape (fullDenomOf_shape creatorFree subdenomFree)
  exact ⟨d, printed, response, resolves⟩

private theorem mint_burn_checks_pass {deps : Deps} {denom : String} {amount : Uint128}
    {address? : Option String} (nonzero : amount ≠ 0)
    (valid : ∀ address ∈ address?, deps.api.addrValidate address = .ok ())
    (denomValid : (Check.denomValid denom).Passes deps) :
    ∀ check ∈ Check.amountNonZero amount :: address?.toList.map .addressValid ++
      [.denomValid denom], check.Passes deps := by
  simp only [List.cons_append, List.mem_cons, List.mem_append, List.mem_map, Option.mem_toList,
    List.mem_singleton, List.not_mem_nil, or_false]
  rintro _ (rfl | ⟨address, given, rfl⟩ | rfl)
  exacts [nonzero, valid address given, denomValid]

/-- A denom the contract creates, for `/`-free names the resolver reports as
`factory/creator/subdenom`, is one every management command accepts. -/
theorem created_denom_is_managed (deps : Deps) (env : Env) (info : MessageInfo)
    {creator subdenom : String} (nonEmpty : subdenom ≠ "") (creatorFree : '/' ∉ creator.data)
    (subdenomFree : '/' ∉ subdenom.data) {response : FullDenomResponse}
    (resolves : deps.querier.fullDenom creator subdenom = .ok response)
    (reported : response.denom = fullDenomOf creator subdenom) :
    (createDenom subdenom).invoke.1 =
        .ok ⟨[.createDenom subdenom none], [⟨"method", "create_denom"⟩]⟩ ∧
    (getDenom deps creator subdenom).run [] =
        (some ⟨response.denom⟩, [.fullDenom creator subdenom]) ∧
    (validateDenom deps response.denom).invoke = (.ok (), [.fullDenom creator subdenom]) ∧
    (∀ newAdmin, deps.api.addrValidate newAdmin = .ok () → ∃ answer,
      (execute deps env info (.changeAdmin response.denom newAdmin)).invoke.1 = .ok answer) ∧
    (∀ amount mintTo, amount ≠ 0 → (∀ address ∈ mintTo, deps.api.addrValidate address = .ok ()) →
      ∃ answer,
        (execute deps env info (.mintTokens response.denom amount mintTo)).invoke.1 = .ok answer) ∧
    (∀ amount burnFrom, amount ≠ 0 →
      (∀ address ∈ burnFrom, deps.api.addrValidate address = .ok ()) → ∃ answer,
        (execute deps env info (.burnTokens response.denom amount burnFrom)).invoke.1 =
          .ok answer) ∧
    (∀ amount fromAddress toAddress, amount ≠ 0 → ∃ answer,
      (execute deps env info (.forceTransfer response.denom amount fromAddress toAddress)).invoke.1 =
        .ok answer) := by
  have denomValid := denomValid_fullDenomOf creatorFree subdenomFree resolves
  rw [← reported] at denomValid
  refine ⟨by simp [createDenom, nonEmpty], by simp [getDenom, resolves], ?_, ?_, ?_, ?_, ?_⟩
  · rw [reported, ContractM.invoke_eq,
      validateDenom_run_of_shape (fullDenomOf_shape creatorFree subdenomFree), resolves]
    rfl
  · intro newAdmin valid
    refine ⟨_, execute_ok_iff.mpr ⟨?_, rfl⟩⟩
    simp only [row, List.mem_cons, List.mem_singleton, List.not_mem_nil, or_false]
    rintro _ (rfl | rfl)
    exacts [valid, denomValid]
  · exact fun amount mintTo nonzero valid =>
      ⟨_, execute_ok_iff.mpr ⟨mint_burn_checks_pass nonzero valid denomValid, rfl⟩⟩
  · exact fun amount burnFrom nonzero valid =>
      ⟨_, execute_ok_iff.mpr ⟨mint_burn_checks_pass nonzero valid denomValid, rfl⟩⟩
  · intro amount fromAddress toAddress nonzero
    refine ⟨_, execute_ok_iff.mpr ⟨?_, rfl⟩⟩
    simp only [row, List.mem_cons, List.mem_singleton, List.not_mem_nil, or_false]
    rintro _ (rfl | rfl)
    exacts [nonzero, denomValid]

/-- A subdenom holding a `/` is created, and the resolver reports its full denom, but that denom
has four parts and is rejected. -/
theorem slash_subdenom_created_but_rejected :
    (createDenom "a/b").invoke.1 = .ok ⟨[.createDenom "a/b" none], [⟨"method", "create_denom"⟩]⟩ ∧
    mockQuerier.fullDenom "creator" "a/b" = .ok ⟨"factory/creator/a/b"⟩ ∧
    (validateDenom mockDeps "factory/creator/a/b").invoke =
      (.error (.invalidDenom "factory/creator/a/b"
        "denom must have 3 parts separated by /, had 4"), []) := by
  refine ⟨by simp [createDenom], rfl, ?_⟩
  rw [ContractM.invoke_eq, validateDenom_run_of_length_ne (by rw [length_split_slash]; decide),
    length_split_slash]
  rfl

theorem created_denom_is_managed_mydenom :
    "mydenom" ≠ "" ∧ '/' ∉ "creator".data ∧ '/' ∉ "mydenom".data ∧
      (validateDenom mockDeps "factory/creator/mydenom").invoke =
        (.ok (), [.fullDenom "creator" "mydenom"]) :=
  ⟨by decide, by decide, by decide,
    (@created_denom_is_managed mockDeps ⟨⟨"contract"⟩⟩ ⟨"creator"⟩ "creator" "mydenom"
      (by decide) (by decide) (by decide) ⟨fullDenomOf "creator" "mydenom"⟩ rfl rfl).2.2.1⟩

/-!
## Accepted denoms are the reported ones up to the head's case
-/

/-- Under a resolver of the tests' form, an accepted denom is the reported full denom up to the
ASCII case of its head, and a command forwards it as written. -/
theorem accepted_denom_is_reported_up_to_head_case {deps : Deps} {denom : String}
    (reports : ReportsFullDenom deps.querier)
    (accepted : (validateDenom deps denom).invoke.1 = .ok ()) :
    (∃ head creator subdenom response,
      DenomSegments denom head creator subdenom ∧ eqIgnoreAsciiCase head "factory" = true ∧
      (validateDenom deps denom).invoke.2 = [.fullDenom creator subdenom] ∧
      deps.querier.fullDenom creator subdenom = .ok response ∧
      response.denom = fullDenomOf creator subdenom ∧
      (denom = response.denom ↔ head = "factory")) ∧
    (∀ env info msg calls answer, msg.denom? = some denom →
      ((execute deps env info msg).run.run calls).1 = .ok answer →
      answer.messages.map TokenFactoryMsg.denom? = [some denom]) := by
  refine ⟨?_, fun env info msg calls answer named executed => ?_⟩
  · obtain ⟨creator, subdenom, shape, response, resolves⟩ := validateDenom_ok_iff.mp accepted
    obtain ⟨head, segments, factory⟩ := shape
    have reported := reports creator subdenom response resolves
    refine ⟨head, creator, subdenom, response, segments,
      (eqIgnoreAsciiCase_iff_forall₂ factory_lower head).mpr factory, ?_, resolves, reported, ?_⟩
    · rw [ContractM.invoke_eq, validateDenom_run_of_shape ⟨head, segments, factory⟩]
      rfl
    · rw [reported]
      constructor
      · intro same
        exact (segments.unique (same ▸ fullDenomOf_segments segments.creator_free
          segments.subdenom_free)).1
      · rintro rfl
        rw [segments.eq_join, fullDenomOf, String.append_assoc "factory"]
        rfl
  · obtain ⟨-, rfl⟩ := execute_ok_iff.mp executed
    simp [Row.response, row_action_denom, named]

/-- A head spelled `FACTORY` is accepted, and the mint forwards that spelling, not the
resolver's `factory/creator/mydenom`. -/
theorem uppercase_head_accepted_and_forwarded :
    (execute mockDeps ⟨⟨"contract"⟩⟩ ⟨"creator"⟩
        (.mintTokens "FACTORY/creator/mydenom" 100 none)).invoke =
      (.ok ⟨[.mintTokens "FACTORY/creator/mydenom" 100 "contract"],
        [⟨"method", "mint_tokens"⟩]⟩, [.fullDenom "creator" "mydenom"]) ∧
    mockQuerier.fullDenom "creator" "mydenom" = .ok ⟨"factory/creator/mydenom"⟩ ∧
    "FACTORY/creator/mydenom" ≠ "factory/creator/mydenom" := by
  have shape : FactoryShape "FACTORY/creator/mydenom" "creator" "mydenom" :=
    ⟨"FACTORY", ⟨rfl, by decide, by decide, by decide⟩, by decide⟩
  refine ⟨?_, rfl, by decide⟩
  rw [ContractM.invoke_eq, execute, mintTokens_eq_referenceDispatch]
  simp [referenceDispatch, row, runChecks, Check.run, ContractM.run_bind,
    validateDenom_run_of_shape shape, mockDeps, mockQuerier, resolverVerdict, Row.response,
    Except.map]

theorem accepted_denom_is_reported_up_to_head_case_mydenom :
    ReportsFullDenom mockQuerier ∧
      (validateDenom mockDeps "factory/creator/mydenom").invoke.1 = .ok () ∧
      (∃ head creator subdenom response,
        DenomSegments "factory/creator/mydenom" head creator subdenom ∧
        eqIgnoreAsciiCase head "factory" = true ∧
        (validateDenom mockDeps "factory/creator/mydenom").invoke.2 =
          [.fullDenom creator subdenom] ∧
        mockQuerier.fullDenom creator subdenom = .ok response ∧
        response.denom = fullDenomOf creator subdenom ∧
        ("factory/creator/mydenom" = response.denom ↔ head = "factory")) := by
  have reports : ReportsFullDenom mockQuerier := fun _ _ _ resolved => by
    cases resolved
    rfl
  have shape : FactoryShape "factory/creator/mydenom" "creator" "mydenom" :=
    @fullDenomOf_shape "creator" "mydenom" (by decide) (by decide)
  have accepted : (validateDenom mockDeps "factory/creator/mydenom").invoke.1 = .ok () := by
    rw [ContractM.invoke_eq, validateDenom_run_of_shape shape]
    rfl
  exact ⟨reports, accepted, (accepted_denom_is_reported_up_to_head_case reports accepted).1⟩

end TokenFactory
