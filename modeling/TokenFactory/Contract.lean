import TokenFactory.Host
import TokenFactory.Str

/-!
# The contract

`contract.rs`: `validate_denom`, the five handlers behind `execute`, and the `GetDenom` query.
Each function keeps the source's order of checks. An early `return Err(..)` is `throw`, and `?`
on a host result is `tryStd`.
-/

set_option autoImplicit false

namespace TokenFactory

/-- `validate_denom`: three `/`-separated parts, the first `factory` up to ASCII case, and the
resolver's acceptance of the other two. The resolver's answer itself is discarded. -/
def validateDenom (deps : Deps) (denom : String) : ContractM Unit := do
  let tokenfactoryDenomParts := denom.split (· == '/')
  if tokenfactoryDenomParts.length ≠ 3 then
    throw (.invalidDenom denom
      ("denom must have 3 parts separated by /, had " ++ toString tokenfactoryDenomParts.length))
  let prefixPart := tokenfactoryDenomParts[0]!
  let creatorAddress := tokenfactoryDenomParts[1]!
  let subdenom := tokenfactoryDenomParts[2]!
  if !eqIgnoreAsciiCase prefixPart "factory" then
    throw (.invalidDenom denom ("prefix must be 'factory', was " ++ prefixPart))
  let response ← deps.fullDenom creatorAddress subdenom
  if let .error error := response then
    throw (.invalidDenom denom error.text)

def createDenom (subdenom : String) : ContractM Response := do
  if subdenom == "" then
    throw (.invalidSubdenom subdenom)
  let createDenomMsg := TokenFactoryMsg.createDenom subdenom none
  pure ((Response.new.addAttribute "method" "create_denom").addMessage createDenomMsg)

def changeAdmin (deps : Deps) (denom newAdminAddress : String) : ContractM Response := do
  tryStd (← deps.addrValidate newAdminAddress)
  validateDenom deps denom
  let changeAdminMsg := TokenFactoryMsg.changeAdmin denom newAdminAddress
  pure ((Response.new.addAttribute "method" "change_admin").addMessage changeAdminMsg)

/-- `mint_tokens`: the recipient defaults to the contract's own address. -/
def mintTokens (deps : Deps) (env : Env) (denom : String) (amount : Uint128)
    (mintToAddress : Option String) : ContractM Response := do
  if amount == 0 then
    throw .zeroAmount
  if let some addr := mintToAddress then
    tryStd (← deps.addrValidate addr)
  validateDenom deps denom
  let recipient := match mintToAddress with
    | some addr => addr
    | none => env.contract.address
  let mintTokensMsg := TokenFactoryMsg.mintContractTokens denom amount recipient
  pure ((Response.new.addAttribute "method" "mint_tokens").addMessage mintTokensMsg)

/-- `burn_tokens`: without a burn-from address the contract burns from its own balance. -/
def burnTokens (deps : Deps) (_env : Env) (denom : String) (amount : Uint128)
    (burnFromAddress : Option String) : ContractM Response := do
  if amount == 0 then
    throw .zeroAmount
  if let some addr := burnFromAddress then
    tryStd (← deps.addrValidate addr)
  validateDenom deps denom
  let burnTokenMsg := match burnFromAddress with
    | some addr => TokenFactoryMsg.burnContractTokens denom amount addr
    | none => TokenFactoryMsg.burnContractTokensFromSelf denom amount
  pure ((Response.new.addAttribute "method" "burn_tokens").addMessage burnTokenMsg)

/-- `force_transfer`: the two addresses are forwarded without validation. -/
def forceTransfer (deps : Deps) (denom : String) (amount : Uint128)
    (fromAddress toAddress : String) : ContractM Response := do
  if amount == 0 then
    throw .zeroAmount
  validateDenom deps denom
  let forceMsg := TokenFactoryMsg.forceTransferTokens denom amount fromAddress toAddress
  pure ((Response.new.addAttribute "method" "force_transfer_tokens").addMessage forceMsg)

def execute (deps : Deps) (env : Env) (_info : MessageInfo) (msg : ExecuteMsg) :
    ContractM Response :=
  match msg with
  | .createDenom subdenom => createDenom subdenom
  | .changeAdmin denom newAdminAddress => changeAdmin deps denom newAdminAddress
  | .mintTokens denom amount mintToAddress => mintTokens deps env denom amount mintToAddress
  | .burnTokens denom amount burnFromAddress => burnTokens deps env denom amount burnFromAddress
  | .forceTransfer denom amount fromAddress toAddress =>
      forceTransfer deps denom amount fromAddress toAddress

/-- `get_denom`: the resolver's full denom. `none` is the panic of `unwrap` on a resolver error,
which aborts the query. -/
def getDenom (deps : Deps) (creatorAddr subdenom : String) : HostM (Option GetDenomResponse) := do
  let response ← deps.fullDenom creatorAddr subdenom
  match response with
  | .ok response => pure (some { denom := response.denom })
  | .error _ => pure none

/-- `query`, up to the JSON encoding of the response. -/
def query (deps : Deps) (_env : Env) (msg : QueryMsg) : HostM (Option GetDenomResponse) :=
  match msg with
  | .getDenom creatorAddress subdenom => getDenom deps creatorAddress subdenom

/-- Modelled from the spec: `State` of `state.rs` (not under src/), the owner recorded at
instantiation. -/
structure State where
  owner : String
  deriving Repr, DecidableEq

structure ContractVersion where
  contract : String
  version : String
  deriving Repr, DecidableEq

/-- The storage `instantiate` writes: the cw2 version record and `STATE`. The writes are modelled
as infallible. -/
structure Storage where
  contractVersion : Option ContractVersion
  state : Option State
  deriving Repr, DecidableEq

def contractName : String := "crates.io:tokenfactory-demo"

/-- `instantiate`: records the sender as owner, and the contract's version, which
`env!("CARGO_PKG_VERSION")` fixes at build time and is a parameter here. -/
def instantiate (contractVersion : String) (storage : Storage) (info : MessageInfo) :
    Storage × Response :=
  let state : State := { owner := info.sender }
  ({ storage with contractVersion := some ⟨contractName, contractVersion⟩, state := some state },
    (Response.new.addAttribute "method" "instantiate").addAttribute "owner" info.sender)

/-!
## Paths of `validate_denom`

One lemma per exit of `validateDenom`, from any call log. Later proofs cite these and never
unfold `validateDenom`.
-/

section ValidateDenom

variable {deps : Deps} {denom head creator subdenom : String} {calls : List HostCall}

theorem validateDenom_run_of_length_ne (parts : (denom.split (· == '/')).length ≠ 3) :
    (validateDenom deps denom).run.run calls =
      (.error (.invalidDenom denom ("denom must have 3 parts separated by /, had " ++
        toString (denom.split (· == '/')).length)), calls) := by
  simp [validateDenom, parts]

theorem validateDenom_run_of_not_factory
    (split : denom.split (· == '/') = [head, creator, subdenom])
    (notFactory : eqIgnoreAsciiCase head "factory" = false) :
    (validateDenom deps denom).run.run calls =
      (.error (.invalidDenom denom ("prefix must be 'factory', was " ++ head)), calls) := by
  simp [validateDenom, split, notFactory]

theorem validateDenom_run_of_factory
    (split : denom.split (· == '/') = [head, creator, subdenom])
    (factory : eqIgnoreAsciiCase head "factory" = true) :
    (validateDenom deps denom).run.run calls =
      (match deps.querier.fullDenom creator subdenom with
        | .ok _ => .ok ()
        | .error error => .error (.invalidDenom denom error.text),
        calls ++ [.fullDenom creator subdenom]) := by
  cases resolved : deps.querier.fullDenom creator subdenom <;>
    simp [validateDenom, split, factory, resolved]

end ValidateDenom

/-!
## The tests' host

`mock_dependencies` of the source's tests: a resolver that accepts every pair and reports
`factory/{creator}/{subdenom}`.
-/

/-- The full denom the tests' resolver builds: `format!("factory/{}/{}", creator_addr, subdenom)`. -/
def fullDenomOf (creator subdenom : String) : String :=
  "factory/" ++ creator ++ "/" ++ subdenom

def mockQuerier : TokenQuerier :=
  ⟨fun creator subdenom => .ok ⟨fullDenomOf creator subdenom⟩⟩

/-- The tests' `mock_dependencies`, with an address validator that accepts every address. -/
def mockDeps : Deps :=
  ⟨⟨fun _ => .ok ()⟩, mockQuerier⟩

end TokenFactory
