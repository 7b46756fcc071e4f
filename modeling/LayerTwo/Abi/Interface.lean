import LayerTwo.Abi.Entry

/-! The three contract interfaces that call messages go through. -/
namespace LayerTwo.Abi

inductive Interface where
  | erc20 | ethToken | l2Bridge
deriving DecidableEq, Inhabited

namespace Interface

def name : Interface → String
  | .erc20 => "IERC20"
  | .ethToken => "IEthToken"
  | .l2Bridge => "IL2Bridge"

/-- All interfaces, in the order of their names. -/
def all : List Interface := [.erc20, .ethToken, .l2Bridge]

def ofName? (name : String) : Option Interface := all.find? (·.name == name)

def erc20Entries : List Entry := [
  .function "allowance" [⟨"owner", .address⟩, ⟨"spender", .address⟩] [⟨"", .uint256⟩] .view,
  .function "approve" [⟨"spender", .address⟩, ⟨"amount", .uint256⟩] [⟨"", .bool⟩] .nonpayable,
  .function "balanceOf" [⟨"account", .address⟩] [⟨"", .uint256⟩] .view,
  .function "totalSupply" [] [⟨"", .uint256⟩] .view,
  .function "transfer" [⟨"to", .address⟩, ⟨"amount", .uint256⟩] [⟨"", .bool⟩] .nonpayable,
  .function "transferFrom" [⟨"from", .address⟩, ⟨"to", .address⟩, ⟨"amount", .uint256⟩]
    [⟨"", .bool⟩] .nonpayable,
  .event "Transfer" [⟨"from", .address⟩, ⟨"to", .address⟩] [⟨"value", .uint256⟩]]

def ethTokenEntries : List Entry := [
  .function "balanceOf" [⟨"", .uint256⟩] [⟨"", .uint256⟩] .view,
  .function "totalSupply" [] [⟨"", .uint256⟩] .view,
  .function "withdraw" [⟨"_l1Receiver", .address⟩] [] .payable,
  .function "withdrawWithMessage" [⟨"_l1Receiver", .address⟩, ⟨"_additionalData", .bytes⟩] []
    .payable,
  .event "Withdrawal" [⟨"_l2Sender", .address⟩, ⟨"_l1Receiver", .address⟩] [⟨"_amount", .uint256⟩]]

def l2BridgeEntries : List Entry := [
  .function "finalizeDeposit" [⟨"_l1Sender", .address⟩, ⟨"_l2Receiver", .address⟩,
    ⟨"_l1Token", .address⟩, ⟨"_amount", .uint256⟩, ⟨"_data", .bytes⟩] [] .payable,
  .function "l1Bridge" [] [⟨"", .address⟩] .view,
  .function "l1TokenAddress" [⟨"_l2Token", .address⟩] [⟨"", .address⟩] .view,
  .function "l2TokenAddress" [⟨"_l1Token", .address⟩] [⟨"", .address⟩] .view,
  .function "withdraw" [⟨"_l1Receiver", .address⟩, ⟨"_l2Token", .address⟩, ⟨"_amount", .uint256⟩]
    [] .nonpayable]

def entries : Interface → List Entry
  | .erc20 => erc20Entries
  | .ethToken => ethTokenEntries
  | .l2Bridge => l2BridgeEntries

/-- The entry with the given name or signature. No interface has two entries of one name. -/
def find? (interface : Interface) (identifier : String) : Option Entry :=
  interface.entries.find? fun entry => entry.name == identifier || entry.signature == identifier

/-- The entry that an identifier names, whatever types it goes on to list. -/
def named? (interface : Interface) (identifier : String) : Option Entry :=
  interface.entries.find? fun entry => entry.name.toList == identifier.toList.takeWhile (· ≠ '(')

def describe (interface : Interface) : Value := .list (interface.entries.map (·.describe))

end Interface

end LayerTwo.Abi
