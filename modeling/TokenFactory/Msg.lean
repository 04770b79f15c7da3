/-!
# Messages, actions and errors

The wire types of `msg.rs`, the token-factory actions the contract hands to the chain, the
error type its handlers return, and the response that carries an accepted command's action.
-/

set_option autoImplicit false

namespace TokenFactory

/-- `cosmwasm_std::Uint128`. Amounts are only compared with zero and forwarded. -/
abbrev Uint128 := BitVec 128

inductive ExecuteMsg where
  | createDenom (subdenom : String)
  | changeAdmin (denom newAdminAddress : String)
  | mintTokens (denom : String) (amount : Uint128) (mintToAddress : Option String)
  | burnTokens (denom : String) (amount : Uint128) (burnFromAddress : Option String)
  | forceTransfer (denom : String) (amount : Uint128) (fromAddress toAddress : String)
  deriving Repr, DecidableEq

inductive QueryMsg where
  | getDenom (creatorAddress subdenom : String)
  deriving Repr, DecidableEq

structure GetDenomResponse where
  denom : String
  deriving Repr, DecidableEq

/-- The bindings' `FullDenomResponse`, the resolver's answer for a creator and a subdenom. -/
structure FullDenomResponse where
  denom : String
  deriving Repr, DecidableEq

/-- Denom metadata of the bindings. The contract only ever sends `None`, so no field of it
is modelled. -/
structure Metadata where
  deriving Repr, DecidableEq

/-- `TokenFactoryMsg` of the bindings: the action the chain's token factory executes. -/
inductive TokenFactoryMsg where
  | createDenom (subdenom : String) (metadata : Option Metadata)
  | changeAdmin (denom newAdminAddress : String)
  | mintTokens (denom : String) (amount : Uint128) (mintToAddress : String)
  | burnTokens (denom : String) (amount : Uint128) (burnFromAddress : Option String)
  | forceTransfer (denom : String) (amount : Uint128) (fromAddress toAddress : String)
  deriving Repr, DecidableEq

namespace TokenFactoryMsg

/-- Modelled from the spec: the bindings' `mint_contract_tokens` (not under src/) builds
`MintTo(denom, amount, recipient)`. -/
def mintContractTokens (denom : String) (amount : Uint128) (mintToAddress : String) :
    TokenFactoryMsg :=
  .mintTokens denom amount mintToAddress

/-- Modelled from the spec: the bindings' `burn_contract_tokens` (not under src/) builds
`BurnFrom(denom, amount, addr)`, a burn with the burn-from address present. -/
def burnContractTokens (denom : String) (amount : Uint128) (burnFromAddress : String) :
    TokenFactoryMsg :=
  .burnTokens denom amount (some burnFromAddress)

/-- Modelled from the spec: the bindings' `burn_contract_tokens_from_self` (not under src/)
builds `BurnSelf(denom, amount)`, a burn with no burn-from address. -/
def burnContractTokensFromSelf (denom : String) (amount : Uint128) : TokenFactoryMsg :=
  .burnTokens denom amount none

/-- Modelled from the spec: the bindings' `force_transfer_tokens` (not under src/) builds
`ForceTransfer(denom, amount, from, to)`. -/
def forceTransferTokens (denom : String) (amount : Uint128) (fromAddress toAddress : String) :
    TokenFactoryMsg :=
  .forceTransfer denom amount fromAddress toAddress

end TokenFactoryMsg

/-- `cosmwasm_std::StdError`, by the text its `Display` renders. -/
structure StdError where
  text : String
  deriving Repr, DecidableEq

/-- Modelled from the spec: `TokenFactoryError` of `error.rs` (not under src/), the variants the
handlers raise. `std` is the `From<StdError>` wrapper that `?` applies to a host error. -/
inductive TokenFactoryError where
  | std (error : StdError)
  | invalidSubdenom (subdenom : String)
  | invalidDenom (denom message : String)
  | zeroAmount
  deriving Repr, DecidableEq

structure Attribute where
  key : String
  value : String
  deriving Repr, DecidableEq

/-- `Response<TokenFactoryMsg>`: messages and attributes in the order they were added. A message
stands for the `SubMsg` that `add_message` wraps it in. -/
structure Response where
  messages : List TokenFactoryMsg
  attributes : List Attribute
  deriving Repr, DecidableEq

namespace Response

def new : Response := ⟨[], []⟩

def addAttribute (response : Response) (key value : String) : Response :=
  { response with attributes := response.attributes ++ [⟨key, value⟩] }

def addMessage (response : Response) (msg : TokenFactoryMsg) : Response :=
  { response with messages := response.messages ++ [msg] }

@[simp] theorem new_addAttribute_addMessage (key value : String) (msg : TokenFactoryMsg) :
    (new.addAttribute key value).addMessage msg = ⟨[msg], [⟨key, value⟩]⟩ := rfl

end Response

structure ContractInfo where
  address : String
  deriving Repr, DecidableEq

/-- `cosmwasm_std::Env`; the contract reads only `env.contract.address`. -/
structure Env where
  contract : ContractInfo
  deriving Repr, DecidableEq

/-- `cosmwasm_std::MessageInfo`; `execute` never reads it. -/
structure MessageInfo where
  sender : String
  deriving Repr, DecidableEq

end TokenFactory
