import TokenFactory.Grammar

/-!
# The dispatch table

The spec's table of commands as data: for each command, its checks in order, the action it
emits and its method name. `referenceDispatch` runs the checks, stops at the first failure, and
otherwise answers with the one action and the one `method` attribute. Each handler of
`contract.rs` is its row of the table, host calls included, so `execute` is the table's
dispatch. A check's verdict does not depend on the calls made before it, which makes acceptance
a property of the command alone: every action that reaches the chain names a well-formed
factory denom the resolver accepted, and moves a nonzero amount.
-/

set_option autoImplicit false

namespace TokenFactory

/-- One check of the dispatch table, with the capability it consults. -/
inductive Check where
  | subdenomNonEmpty (subdenom : String)
  | amountNonZero (amount : Uint128)
  | addressValid (address : String)
  | denomValid (denom : String)
  deriving DecidableEq

/-- A check's verdict. The subdenom and the amount are decided without the host, an address is
put to the address validator and its error passed through, and a denom to `validate_denom`. -/
def Check.run (deps : Deps) : Check → ContractM Unit
  | .subdenomNonEmpty subdenom =>
    if subdenom = "" then throw (.invalidSubdenom subdenom) else pure ()
  | .amountNonZero amount => if amount = 0 then throw .zeroAmount else pure ()
  | .addressValid address => do tryStd (← deps.addrValidate address)
  | .denomValid denom => validateDenom deps denom

/-- When a check passes, independently of the calls made before it. -/
def Check.Passes (deps : Deps) : Check → Prop
  | .subdenomNonEmpty subdenom => subdenom ≠ ""
  | .amountNonZero amount => amount ≠ 0
  | .addressValid address => deps.api.addrValidate address = .ok ()
  | .denomValid denom => ∃ d : FactoryDenom, d.toString = denom ∧
      ∃ response, deps.querier.fullDenom d.creator d.subdenom = .ok response

def runChecks (deps : Deps) : List Check → ContractM Unit
  | [] => pure ()
  | check :: checks => do check.run deps; runChecks deps checks

structure Row where
  checks : List Check
  action : TokenFactoryMsg
  method : String

def Row.response (row : Row) : Response :=
  ⟨[row.action], [⟨"method", row.method⟩]⟩

/-- The spec's table: the zero-amount check before the address checks, the address checks before
the denom check. Only present optional addresses are checked; the transfer's two addresses are
forwarded unchecked. -/
def row (env : Env) : ExecuteMsg → Row
  | .createDenom subdenom =>
    ⟨[.subdenomNonEmpty subdenom], .createDenom subdenom none, "create_denom"⟩
  | .changeAdmin denom newAdmin =>
    ⟨[.addressValid newAdmin, .denomValid denom], .changeAdmin denom newAdmin, "change_admin"⟩
  | .mintTokens denom amount mintTo =>
    ⟨.amountNonZero amount :: mintTo.toList.map .addressValid ++ [.denomValid denom],
      .mintTokens denom amount (mintTo.getD env.contract.address), "mint_tokens"⟩
  | .burnTokens denom amount burnFrom =>
    ⟨.amountNonZero amount :: burnFrom.toList.map .addressValid ++ [.denomValid denom],
      .burnTokens denom amount burnFrom, "burn_tokens"⟩
  | .forceTransfer denom amount fromAddress toAddress =>
    ⟨[.amountNonZero amount, .denomValid denom],
      .forceTransfer denom amount fromAddress toAddress, "force_transfer_tokens"⟩

/-- Dispatch by the table: the checks in order, then the row's answer. -/
def referenceDispatch (deps : Deps) (env : Env) (msg : ExecuteMsg) : ContractM Response := do
  runChecks deps (row env msg).checks
  pure (row env msg).response

/-!
## Each handler is its row
-/

section Handlers

variable (deps : Deps) (env : Env) (denom : String) (amount : Uint128)

theorem createDenom_eq_referenceDispatch (subdenom : String) :
    createDenom subdenom = referenceDispatch deps env (.createDenom subdenom) := by
  by_cases empty : subdenom = "" <;>
    simp [createDenom, referenceDispatch, row, runChecks, Check.run, Row.response, empty]

theorem changeAdmin_eq_referenceDispatch (newAdmin : String) :
    changeAdmin deps denom newAdmin = referenceDispatch deps env (.changeAdmin denom newAdmin) := by
  simp [changeAdmin, referenceDispatch, row, runChecks, Check.run, Row.response]

theorem mintTokens_eq_referenceDispatch (mintTo : Option String) :
    mintTokens deps env denom amount mintTo =
      referenceDispatch deps env (.mintTokens denom amount mintTo) := by
  by_cases zero : amount = 0#128 <;> cases mintTo <;>
    simp [mintTokens, referenceDispatch, row, runChecks, Check.run, Row.response, zero,
      TokenFactoryMsg.mintContractTokens]

theorem burnTokens_eq_referenceDispatch (burnFrom : Option String) :
    burnTokens deps env denom amount burnFrom =
      referenceDispatch deps env (.burnTokens denom amount burnFrom) := by
  by_cases zero : amount = 0#128 <;> cases burnFrom <;>
    simp [burnTokens, referenceDispatch, row, runChecks, Check.run, Row.response, zero,
      TokenFactoryMsg.burnContractTokens, TokenFactoryMsg.burnContractTokensFromSelf]

theorem forceTransfer_eq_referenceDispatch (fromAddress toAddress : String) :
    forceTransfer deps denom amount fromAddress toAddress =
      referenceDispatch deps env (.forceTransfer denom amount fromAddress toAddress) := by
  by_cases zero : amount = 0#128 <;>
    simp [forceTransfer, referenceDispatch, row, runChecks, Check.run, Row.response, zero,
      TokenFactoryMsg.forceTransferTokens]

end Handlers

/-- The run of `execute`, from any log, is the run of the table's dispatch. The one case split
over the handlers; every later fact about `execute` goes through it. -/
theorem execute_run (deps : Deps) (env : Env) (info : MessageInfo) (msg : ExecuteMsg)
    (calls : List HostCall) :
    (execute deps env info msg).run.run calls = (referenceDispatch deps env msg).run.run calls := by
  cases msg with
  | createDenom subdenom => rw [execute, createDenom_eq_referenceDispatch deps env]
  | changeAdmin denom newAdmin => rw [execute, changeAdmin_eq_referenceDispatch deps env]
  | mintTokens denom amount mintTo => rw [execute, mintTokens_eq_referenceDispatch]
  | burnTokens denom amount burnFrom => rw [execute, burnTokens_eq_referenceDispatch]
  | forceTransfer denom amount fromAddress toAddress =>
    rw [execute, forceTransfer_eq_referenceDispatch deps env]

/-- `execute` is the dispatch of the spec's table: the same checks, host calls and errors, in
the same order. -/
theorem execute_eq_referenceDispatch (deps : Deps) (env : Env) (info : MessageInfo)
    (msg : ExecuteMsg) : execute deps env info msg = referenceDispatch deps env msg :=
  ExceptT.ext (StateT.ext (execute_run deps env info msg))

/-!
## Acceptance
-/

section Acceptance

theorem Check.run_ok_iff (deps : Deps) (calls : List HostCall) (check : Check) :
    ((check.run deps).run.run calls).1 = .ok () ↔ check.Passes deps := by
  cases check with
  | subdenomNonEmpty subdenom =>
    by_cases empty : subdenom = "" <;> simp [Check.run, Check.Passes, empty]
  | amountNonZero amount =>
    by_cases zero : amount = 0#128 <;> simp [Check.run, Check.Passes, zero]
  | addressValid address =>
    cases validated : deps.api.addrValidate address <;>
      simp [Check.run, Check.Passes, validated]
  | denomValid denom => exact validateDenom_ok_iff_printed deps denom calls

theorem runChecks_ok_iff (deps : Deps) (checks : List Check) (calls : List HostCall) :
    ((runChecks deps checks).run.run calls).1 = .ok () ↔ ∀ check ∈ checks, check.Passes deps := by
  induction checks generalizing calls with
  | nil => simp [runChecks]
  | cons check checks ih =>
    rw [List.forall_mem_cons, ← check.run_ok_iff deps calls]
    simp only [runChecks, ContractM.run_bind]
    rcases (check.run deps).run.run calls with ⟨_ | _, calls'⟩ <;> simp [ih]

variable {deps : Deps} {calls : List HostCall}

theorem referenceDispatch_ok_iff {env : Env} {msg : ExecuteMsg} {response : Response} :
    ((referenceDispatch deps env msg).run.run calls).1 = .ok response ↔
      (∀ check ∈ (row env msg).checks, check.Passes deps) ∧ response = (row env msg).response := by
  rw [← runChecks_ok_iff deps _ calls]
  simp only [referenceDispatch, ContractM.run_bind]
  rcases (runChecks deps (row env msg).checks).run.run calls with ⟨_ | _, calls'⟩ <;>
    simp [eq_comm]

theorem execute_ok_iff {env : Env} {info : MessageInfo} {msg : ExecuteMsg} {response : Response} :
    ((execute deps env info msg).run.run calls).1 = .ok response ↔
      (∀ check ∈ (row env msg).checks, check.Passes deps) ∧ response = (row env msg).response := by
  rw [execute_run, referenceDispatch_ok_iff]

end Acceptance

/-!
## Rejection
-/

section Rejection

variable {deps : Deps} {calls : List HostCall} {error : TokenFactoryError}

end Rejection

def TokenFactoryMsg.denom? : TokenFactoryMsg → Option String
  | .createDenom _ _ => none
  | .changeAdmin denom _ => some denom
  | .mintTokens denom _ _ => some denom
  | .burnTokens denom _ _ => some denom
  | .forceTransfer denom _ _ _ => some denom

def TokenFactoryMsg.amount? : TokenFactoryMsg → Option Uint128
  | .mintTokens _ amount _ => some amount
  | .burnTokens _ amount _ => some amount
  | .forceTransfer _ amount _ _ => some amount
  | _ => none

def ExecuteMsg.denom? : ExecuteMsg → Option String
  | .createDenom _ => none
  | .changeAdmin denom _ => some denom
  | .mintTokens denom _ _ => some denom
  | .burnTokens denom _ _ => some denom
  | .forceTransfer denom _ _ _ => some denom

theorem row_action_denom (env : Env) (msg : ExecuteMsg) :
    (row env msg).action.denom? = msg.denom? := by
  cases msg <;> rfl

theorem row_checks_action (env : Env) (msg : ExecuteMsg) :
    (∀ denom, (row env msg).action.denom? = some denom →
      .denomValid denom ∈ (row env msg).checks) ∧
    (∀ amount, (row env msg).action.amount? = some amount →
      .amountNonZero amount ∈ (row env msg).checks) := by
  cases msg <;> simp [row, TokenFactoryMsg.denom?, TokenFactoryMsg.amount?]

/-- An accepted command answers with exactly one action, whose denom is a printed factory denom
the resolver accepted and whose amount is not zero. -/
theorem execute_emits_wellFormed_action {deps : Deps} {env : Env} {info : MessageInfo}
    {msg : ExecuteMsg} {calls : List HostCall} {response : Response}
    (accepted : ((execute deps env info msg).run.run calls).1 = .ok response) :
    ∃ action, response.messages = [action] ∧
      (∀ denom, action.denom? = some denom → ∃ d : FactoryDenom, d.toString = denom ∧
        ∃ answer, deps.querier.fullDenom d.creator d.subdenom = .ok answer) ∧
      (∀ amount, action.amount? = some amount → amount ≠ 0) := by
  obtain ⟨passes, rfl⟩ := execute_ok_iff.mp accepted
  obtain ⟨denoms, amounts⟩ := row_checks_action env msg
  exact ⟨(row env msg).action, rfl, fun denom named => passes _ (denoms denom named),
    fun amount moved => passes _ (amounts amount moved)⟩

theorem execute_emits_wellFormed_action_mint :
    ((execute mockDeps ⟨⟨"contract"⟩⟩ ⟨"creator"⟩
        (.mintTokens "factory/creator/mydenom" 100 none)).run.run []).1 =
      .ok ⟨[.mintTokens "factory/creator/mydenom" 100 "contract"], [⟨"method", "mint_tokens"⟩]⟩ ∧
    ∃ action, [TokenFactoryMsg.mintTokens "factory/creator/mydenom" 100 "contract"] = [action] ∧
      (∀ denom, action.denom? = some denom → ∃ d : FactoryDenom, d.toString = denom ∧
        ∃ answer, mockQuerier.fullDenom d.creator d.subdenom = .ok answer) ∧
      (∀ amount, action.amount? = some amount → amount ≠ 0) := by
  have split : "factory/creator/mydenom".split (· == '/') = ["factory", "creator", "mydenom"] := by
    rw [split_slash]
    decide
  have accepted : ((execute mockDeps ⟨⟨"contract"⟩⟩ ⟨"creator"⟩
      (.mintTokens "factory/creator/mydenom" 100 none)).run.run []).1 =
        .ok ⟨[.mintTokens "factory/creator/mydenom" 100 "contract"],
          [⟨"method", "mint_tokens"⟩]⟩ := by
    rw [execute, mintTokens_eq_referenceDispatch]
    simp [referenceDispatch, row, runChecks, Check.run, ContractM.run_bind, Row.response,
      validateDenom_run_of_factory split (by decide), mockDeps, mockQuerier, Except.map]
  exact ⟨accepted, execute_emits_wellFormed_action accepted⟩

end TokenFactory
