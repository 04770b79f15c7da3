import TokenFactory.Msg

/-!
# Host capabilities

The contract reaches the host through `deps`: the address validator `deps.api.addr_validate`
and the token-factory querier's `full_denom`. Both are arbitrary partial functions here. Every
call is appended to a call log, so which capability a handler consulted, with which arguments
and in which order, is part of its observable behaviour.
-/

set_option autoImplicit false

namespace TokenFactory

/-- `deps.api`: the host's address validator. The validated `Addr` it returns is discarded by
every caller, so only acceptance is modelled. -/
structure Api where
  addrValidate : String → Except StdError Unit

/-- The querier behind `TokenQuerier::new(&deps.querier)`: the resolver from a creator and a
subdenom to the full denom. -/
structure TokenQuerier where
  fullDenom : String → String → Except StdError FullDenomResponse

/-- `DepsMut<TokenFactoryQuery>` as the handlers use it. The storage is neither read nor written
by `execute` or `query`, so it is not part of the model. -/
structure Deps where
  api : Api
  querier : TokenQuerier

inductive HostCall where
  | addrValidate (address : String)
  | fullDenom (creatorAddr subdenom : String)
  deriving Repr, DecidableEq

abbrev HostM := StateM (List HostCall)

abbrev ContractM := ExceptT TokenFactoryError HostM

namespace Deps

def addrValidate (deps : Deps) (address : String) : HostM (Except StdError Unit) :=
  modifyGet fun calls => (deps.api.addrValidate address, calls ++ [.addrValidate address])

def fullDenom (deps : Deps) (creatorAddr subdenom : String) :
    HostM (Except StdError FullDenomResponse) :=
  modifyGet fun calls =>
    (deps.querier.fullDenom creatorAddr subdenom, calls ++ [.fullDenom creatorAddr subdenom])

@[simp] theorem addrValidate_run (deps : Deps) (address : String) (calls : List HostCall) :
    (deps.addrValidate address).run calls =
      (deps.api.addrValidate address, calls ++ [.addrValidate address]) := rfl

@[simp] theorem fullDenom_run (deps : Deps) (creatorAddr subdenom : String)
    (calls : List HostCall) :
    (deps.fullDenom creatorAddr subdenom).run calls =
      (deps.querier.fullDenom creatorAddr subdenom,
        calls ++ [.fullDenom creatorAddr subdenom]) := rfl

end Deps

/-- Rust's `?` on a `StdResult` in a handler: the error is wrapped by `From<StdError>`. -/
def tryStd {α : Type} : Except StdError α → ContractM α
  | .ok value => pure value
  | .error error => throw (.std error)

@[simp] theorem tryStd_ok {α : Type} (value : α) : tryStd (.ok value) = pure value := rfl

@[simp] theorem tryStd_error {α : Type} (error : StdError) :
    (tryStd (.error error) : ContractM α) = throw (.std error) := rfl

@[simp] theorem run_liftM_bind {α β : Type} (host : HostM α) (next : α → ContractM β)
    (calls : List HostCall) :
    (liftM host >>= next : ContractM β).run.run calls =
      (next (host.run calls).1).run.run (host.run calls).2 := rfl

/-- An entry point's outcome from a fresh call log: its result, and the host calls it made in
order. Each invocation of the contract starts from an empty log. -/
def ContractM.invoke {α : Type} (action : ContractM α) :
    Except TokenFactoryError α × List HostCall :=
  action.run.run []

@[simp] theorem ContractM.invoke_eq {α : Type} (action : ContractM α) :
    action.invoke = action.run.run [] := rfl

theorem ContractM.run_bind {α β : Type} (action : ContractM α) (next : α → ContractM β)
    (calls : List HostCall) :
    (action >>= next).run.run calls =
      match action.run.run calls with
      | (.ok value, calls') => (next value).run.run calls'
      | (.error error, calls') => (.error error, calls') := by
  simp only [ExceptT.run_bind, StateT.run_bind]
  rcases action.run.run calls with ⟨_ | _, calls'⟩ <;> rfl

end TokenFactory
