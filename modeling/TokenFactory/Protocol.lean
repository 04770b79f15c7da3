import TokenFactory.Dispatch

/-!
# The host protocol

What the contract asks the host, and what the host's answers can change. A command plans its host
calls: the address validator on each address it submits, in order, then the resolver once, on the
parsed pair of its denom. `execute` makes that plan up to and including the first call the host
rejects, and makes none when a zero amount stops it first. The host's answers reach the outcome
only through their verdicts on the planned calls; every forwarded address but the force
transfer's two and the default mint recipient was validated; the `GetDenom` query and
`validate_denom` agree on every factory denom.
-/

set_option autoImplicit false

namespace TokenFactory

theorem referenceDispatch_run (deps : Deps) (env : Env) (msg : ExecuteMsg)
    (calls : List HostCall) :
    (referenceDispatch deps env msg).run.run calls =
      (((runChecks deps (row env msg).checks).run.run calls).1.map fun _ => (row env msg).response,
        ((runChecks deps (row env msg).checks).run.run calls).2) := by
  simp only [referenceDispatch, ContractM.run_bind]
  rcases (runChecks deps (row env msg).checks).run.run calls with ⟨_ | _, calls'⟩ <;> rfl

/-!
## Verdicts and plans
-/

/-- A host's verdict on a call: whether it accepts, whatever else it answers. -/
def HostCall.verdict (deps : Deps) : HostCall → Bool
  | .addrValidate address => (deps.api.addrValidate address).toBool
  | .fullDenom creatorAddr subdenom => (deps.querier.fullDenom creatorAddr subdenom).toBool

namespace HostCall

variable {deps : Deps}

end HostCall

/-- The host calls a check makes, whether it passes or fails: none for the subdenom and the
amount, the validator on an address, and the resolver on the parsed pair of a denom that parses. -/
def Check.calls : Check → List HostCall
  | .subdenomNonEmpty _ => []
  | .amountNonZero _ => []
  | .addressValid address => [.addrValidate address]
  | .denomValid denom => (FactoryDenom.parse denom).toOption.toList.map FactoryDenom.resolverCall

def ExecuteMsg.checkedAddresses : ExecuteMsg → List String
  | .createDenom _ => []
  | .changeAdmin _ newAdminAddress => [newAdminAddress]
  | .mintTokens _ _ mintToAddress => mintToAddress.toList
  | .burnTokens _ _ burnFromAddress => burnFromAddress.toList
  | .forceTransfer _ _ _ _ => []

/-- The host calls a command plans: the validator on each checked address, in order, then the
resolver on the parsed pair of its denom. -/
def ExecuteMsg.plannedCalls (msg : ExecuteMsg) : List HostCall :=
  msg.checkedAddresses.map .addrValidate ++
    (msg.denom?.bind fun denom => (FactoryDenom.parse denom).toOption).toList.map
      FactoryDenom.resolverCall

private theorem exists_ok_iff_toBool {ε α : Type} {result : Except ε α} :
    (∃ value, result = .ok value) ↔ result.toBool = true := by
  cases result <;> simp [Except.toBool]

private theorem eq_ok_unit_iff_toBool {ε : Type} {result : Except ε Unit} :
    result = .ok () ↔ result.toBool = true := by
  cases result <;> simp [Except.toBool]

theorem Check.run_calls (deps : Deps) (calls : List HostCall) (check : Check) :
    ((check.run deps).run.run calls).2 = calls ++ check.calls := by
  cases check with
  | subdenomNonEmpty subdenom =>
    by_cases empty : subdenom = "" <;> simp [Check.run, Check.calls, empty]
  | amountNonZero amount =>
    by_cases zero : amount = 0#128 <;> simp [Check.run, Check.calls, zero]
  | addressValid address =>
    cases validated : deps.api.addrValidate address <;> simp [Check.run, Check.calls, validated]
  | denomValid denom =>
    simp only [Check.run, Check.calls, validateDenom_run_eq_parse]
    cases FactoryDenom.parse denom <;> simp [Except.toOption]

theorem row_calls (env : Env) (msg : ExecuteMsg) :
    (row env msg).checks.flatMap Check.calls = msg.plannedCalls := by
  rcases msg with _ | _ | ⟨_, _, _ | _⟩ | ⟨_, _, _ | _⟩ | _ <;>
    simp [row, Check.calls, ExecuteMsg.plannedCalls, ExecuteMsg.checkedAddresses, ExecuteMsg.denom?]

section Calls

variable (deps : Deps)

theorem runChecks_cons_of_passes {check : Check} (passes : check.Passes deps)
    (checks : List Check) (calls : List HostCall) :
    (runChecks deps (check :: checks)).run.run calls =
      (runChecks deps checks).run.run (calls ++ check.calls) := by
  have ok := (check.run_ok_iff deps calls).mpr passes
  have made := check.run_calls deps calls
  simp only [runChecks, ContractM.run_bind]
  generalize (check.run deps).run.run calls = run at ok made ⊢
  rcases run with ⟨_ | _, calls'⟩ <;> simp only at ok made ⊢
  · cases ok
  · rw [made]

theorem runChecks_cons_of_fails {check : Check} (fails : ¬ check.Passes deps)
    (checks : List Check) (calls : List HostCall) :
    ∃ error, (runChecks deps (check :: checks)).run.run calls = (.error error, calls ++ check.calls) := by
  have ok := check.run_ok_iff deps calls
  have made := check.run_calls deps calls
  simp only [runChecks, ContractM.run_bind]
  generalize (check.run deps).run.run calls = run at ok made ⊢
  rcases run with ⟨_ | _, calls'⟩ <;> simp only at ok made ⊢
  · exact ⟨_, by rw [made]⟩
  · exact absurd (ok.mp trivial) fails

theorem runChecks_calls_of_ok {checks : List Check} {calls : List HostCall}
    (passed : ((runChecks deps checks).run.run calls).1 = .ok ()) :
    ((runChecks deps checks).run.run calls).2 = calls ++ checks.flatMap Check.calls := by
  induction checks generalizing calls with
  | nil => simp [runChecks]
  | cons check checks ih =>
    by_cases passes : check.Passes deps
    · rw [runChecks_cons_of_passes deps passes] at passed ⊢
      rw [ih passed, List.flatMap_cons, List.append_assoc]
    · obtain ⟨error, run⟩ := runChecks_cons_of_fails deps passes checks calls
      rw [run] at passed
      cases passed

theorem execute_calls_of_ok {env : Env} {info : MessageInfo} {msg : ExecuteMsg}
    {calls : List HostCall} {response : Response}
    (accepted : ((execute deps env info msg).run.run calls).1 = .ok response) :
    ((execute deps env info msg).run.run calls).2 = calls ++ msg.plannedCalls := by
  rw [execute_run, referenceDispatch_run, ← row_calls env msg]
  exact runChecks_calls_of_ok deps ((runChecks_ok_iff deps _ calls).mpr (execute_ok_iff.mp accepted).1)

end Calls

def TokenFactoryMsg.addresses : TokenFactoryMsg → List String
  | .createDenom _ _ => []
  | .changeAdmin _ newAdminAddress => [newAdminAddress]
  | .mintTokens _ _ mintToAddress => [mintToAddress]
  | .burnTokens _ _ burnFromAddress => burnFromAddress.toList
  | .forceTransfer _ _ fromAddress toAddress => [fromAddress, toAddress]

theorem row_action_addresses (env : Env) (msg : ExecuteMsg) {address : String}
    (carried : address ∈ (row env msg).action.addresses) :
    address ∈ msg.checkedAddresses ∨
      (∃ denom amount fromAddress toAddress,
        msg = .forceTransfer denom amount fromAddress toAddress) ∨
      (∃ denom amount, msg = .mintTokens denom amount none ∧ address = env.contract.address) := by
  rcases msg with _ | _ | ⟨_, _, _ | _⟩ | _ | _ <;>
    simp_all [row, TokenFactoryMsg.addresses, ExecuteMsg.checkedAddresses]

theorem row_checks_addresses (env : Env) (msg : ExecuteMsg) {address : String}
    (checked : address ∈ msg.checkedAddresses) :
    .addressValid address ∈ (row env msg).checks := by
  cases msg <;> simp_all [row, ExecuteMsg.checkedAddresses]

/-- Every address an accepted command forwards was validated in the same call, except the force
transfer's two and the contract's own address as default recipient. -/
theorem execute_forwards_validated_addresses {deps : Deps} {env : Env} {info : MessageInfo}
    {msg : ExecuteMsg} {calls : List HostCall} {response : Response}
    (accepted : ((execute deps env info msg).run.run calls).1 = .ok response) :
    ∃ action, response.messages = [action] ∧ ∀ address ∈ action.addresses,
      (HostCall.addrValidate address ∈ ((execute deps env info msg).run.run calls).2 ∧
        deps.api.addrValidate address = .ok ()) ∨
      (∃ denom amount fromAddress toAddress,
        msg = .forceTransfer denom amount fromAddress toAddress) ∨
      (∃ denom amount, msg = .mintTokens denom amount none ∧ address = env.contract.address) := by
  have log := execute_calls_of_ok deps accepted
  obtain ⟨passes, rfl⟩ := execute_ok_iff.mp accepted
  refine ⟨_, rfl, fun address carried => ?_⟩
  rcases row_action_addresses env msg carried with checked | forced | defaulted
  · refine .inl ⟨?_, passes _ (row_checks_addresses env msg checked)⟩
    simp [log, ExecuteMsg.plannedCalls, checked]
  · exact .inr (.inl forced)
  · exact .inr (.inr defaulted)

theorem execute_forwards_validated_addresses_mint_and_transfer :
    (HostCall.addrValidate "cosmos1abc" ∈ ((execute mockDeps ⟨⟨"contract"⟩⟩ ⟨"creator"⟩
        (.mintTokens "factory/creator/mydenom" 100 (some "cosmos1abc"))).run.run []).2 ∧
      mockDeps.api.addrValidate "cosmos1abc" = .ok ()) ∧
    ((execute mockDeps ⟨⟨"contract"⟩⟩ ⟨"creator"⟩
        (.forceTransfer "factory/creator/mydenom" 100 "transferme" "tome")).run.run []).1 =
      .ok ⟨[.forceTransfer "factory/creator/mydenom" 100 "transferme" "tome"],
        [⟨"method", "force_transfer_tokens"⟩]⟩ ∧
    ∃ action, [TokenFactoryMsg.forceTransfer "factory/creator/mydenom" 100 "transferme" "tome"] =
        [action] ∧ ∀ address ∈ action.addresses,
      (HostCall.addrValidate address ∈ ((execute mockDeps ⟨⟨"contract"⟩⟩ ⟨"creator"⟩
          (.forceTransfer "factory/creator/mydenom" 100 "transferme" "tome")).run.run []).2 ∧
        mockDeps.api.addrValidate address = .ok ()) ∨
      (∃ denom amount fromAddress toAddress, ExecuteMsg.forceTransfer "factory/creator/mydenom" 100
        "transferme" "tome" = .forceTransfer denom amount fromAddress toAddress) ∨
      (∃ denom amount, ExecuteMsg.forceTransfer "factory/creator/mydenom" 100 "transferme" "tome" =
        .mintTokens denom amount none ∧ address = "contract") := by
  have denom : (Check.denomValid "factory/creator/mydenom").Passes mockDeps :=
    ⟨⟨"factory", "creator", "mydenom", by decide, by decide, by decide⟩, rfl, _, rfl⟩
  have minted : ((execute mockDeps ⟨⟨"contract"⟩⟩ ⟨"creator"⟩
      (.mintTokens "factory/creator/mydenom" 100 (some "cosmos1abc"))).run.run []).1 =
        .ok ⟨[.mintTokens "factory/creator/mydenom" 100 "cosmos1abc"],
          [⟨"method", "mint_tokens"⟩]⟩ := by
    refine execute_ok_iff.mpr ⟨fun check member => ?_, rfl⟩
    simp only [row, Option.toList_some, List.map_cons, List.map_nil, List.cons_append,
      List.nil_append, List.mem_cons, List.mem_singleton, List.not_mem_nil, or_false] at member
    rcases member with rfl | rfl | rfl
    exacts [(by decide : (100 : Uint128) ≠ 0), rfl, denom]
  have transferred : ((execute mockDeps ⟨⟨"contract"⟩⟩ ⟨"creator"⟩
      (.forceTransfer "factory/creator/mydenom" 100 "transferme" "tome")).run.run []).1 =
        .ok ⟨[.forceTransfer "factory/creator/mydenom" 100 "transferme" "tome"],
          [⟨"method", "force_transfer_tokens"⟩]⟩ := by
    refine execute_ok_iff.mpr ⟨fun check member => ?_, rfl⟩
    simp only [row, List.mem_cons, List.mem_singleton, List.not_mem_nil, or_false] at member
    rcases member with rfl | rfl
    exacts [(by decide : (100 : Uint128) ≠ 0), denom]
  obtain ⟨action, single, forwarded⟩ := execute_forwards_validated_addresses minted
  cases List.cons.inj single |>.1
  refine ⟨?_, transferred, execute_forwards_validated_addresses transferred⟩
  rcases forwarded "cosmos1abc" (List.mem_singleton_self _) with
    validated | ⟨_, _, _, _, forced⟩ | ⟨_, _, defaulted, _⟩
  · exact validated
  · cases forced
  · cases defaulted

/-!
## What the host's answers can change
-/

theorem Check.passes_congr {deps deps' : Deps} {check : Check}
    (same : ∀ call ∈ check.calls, call.verdict deps = call.verdict deps') :
    check.Passes deps ↔ check.Passes deps' := by
  cases check with
  | subdenomNonEmpty _ => rfl
  | amountNonZero _ => rfl
  | addressValid address =>
    simp only [Check.Passes, eq_ok_unit_iff_toBool]
    exact iff_of_eq (congrArg (· = true) (same _ (List.mem_singleton_self _)))
  | denomValid denom =>
    simp only [Check.Passes, exists_ok_iff_toBool]
    refine exists_congr fun d => and_congr_right fun printed => iff_of_eq (congrArg (· = true) ?_)
    exact same d.resolverCall (by
      simp [Check.calls, FactoryDenom.parse_eq_ok_iff.mpr printed, Except.toOption])

/-- The host's answers reach an accepted command's response not at all, and its acceptance only
through their verdicts on the planned calls. -/
theorem execute_outcome_depends_only_on_verdicts {deps deps' : Deps} {env : Env}
    {info info' : MessageInfo} {msg : ExecuteMsg} {calls calls' : List HostCall} :
    (∀ response response', ((execute deps env info msg).run.run calls).1 = .ok response →
      ((execute deps' env info' msg).run.run calls').1 = .ok response' → response = response') ∧
    ((∀ call ∈ msg.plannedCalls, call.verdict deps = call.verdict deps') →
      ∀ response, ((execute deps env info msg).run.run calls).1 = .ok response ↔
        ((execute deps' env info' msg).run.run calls').1 = .ok response) := by
  refine ⟨fun response response' accepted accepted' => ?_, fun same response => ?_⟩
  · rw [(execute_ok_iff.mp accepted).2, (execute_ok_iff.mp accepted').2]
  · rw [execute_ok_iff, execute_ok_iff]
    refine and_congr_left fun _ => forall₂_congr fun check member => Check.passes_congr ?_
    exact fun call made => same call (row_calls env msg ▸ List.mem_flatMap.mpr ⟨check, member, made⟩)

/-!
## The query
-/

theorem getDenom_run (deps : Deps) (creatorAddr subdenom : String) (calls : List HostCall) :
    (getDenom deps creatorAddr subdenom).run calls =
      ((deps.querier.fullDenom creatorAddr subdenom).toOption.map fun response => ⟨response.denom⟩,
        calls ++ [.fullDenom creatorAddr subdenom]) := by
  cases resolved : deps.querier.fullDenom creatorAddr subdenom <;>
    simp [getDenom, resolved, Except.toOption]

/-- The `GetDenom` query for a factory denom's pair makes the resolver call `validate_denom`
makes, and returns exactly when `validate_denom` accepts. -/
theorem query_agrees_with_validateDenom (deps : Deps) (env : Env) (d : FactoryDenom)
    (calls : List HostCall) :
    ((query deps env (.getDenom d.creator d.subdenom)).run calls).2 = calls ++ [d.resolverCall] ∧
    ((validateDenom deps d.toString).run.run calls).2 = calls ++ [d.resolverCall] ∧
    (∀ answer, ((query deps env (.getDenom d.creator d.subdenom)).run calls).1 = some answer ↔
      ∃ response, deps.querier.fullDenom d.creator d.subdenom = .ok response ∧
        answer.denom = response.denom) ∧
    (((query deps env (.getDenom d.creator d.subdenom)).run calls).1.isSome ↔
      ((validateDenom deps d.toString).run.run calls).1 = .ok ()) := by
  have parsed : FactoryDenom.parse d.toString = .ok d := FactoryDenom.parse_eq_ok_iff.mpr rfl
  refine ⟨?_, ?_, fun ⟨denom⟩ => ?_, ?_⟩ <;>
    simp only [query, getDenom_run, validateDenom_run_eq_parse, parsed] <;>
    cases deps.querier.fullDenom d.creator d.subdenom <;>
    simp [Except.toOption, resolverVerdict, eq_comm, FactoryDenom.resolverCall]

end TokenFactory
