import LedgerWallet.Console.Commands

namespace LedgerWallet.Sample

def seeds : Seeds := ⟨fun n => .replicate 32 (UInt8.ofNat n), 1⟩

def accountState : AccountState := ⟨900, 3, 900, 7⟩

def transactionState : TransactionState := ⟨.replicate 32 0x4B, "pending"⟩

def node : Node where
  submit := fun _ _ => ⟨0, .ok transactionState⟩
  accountState := fun _ _ => ⟨0, .ok accountState⟩
  transactionState := fun _ _ => ⟨0, .ok transactionState⟩

def setup : Setup := ⟨node, "", 1, 100, false⟩

def opened (files : FileTree) : Console :=
  ⟨(Wallet.openIn files ⟨"data"⟩ 1000).1, files, seeds, [], [], ""⟩

def account : Account := Account.generate seeds.next "first"

def console : Console :=
  (Console.run (Console.perform setup .accountNew "first") (opened .empty)).2

end LedgerWallet.Sample
