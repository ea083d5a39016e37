import LedgerWallet.Proofs.Node.Responses

namespace LedgerWallet.Rpc

variable (call : Call)

theorem canonical_requestJson : Json.Canonical Json.depthLimit (requestJson call) := by
  have params : Json.Canonical 126 (.array [.string (Hex.encode call.argument)]) :=
    .array (List.forall_mem_singleton.2 (.string 125 _))
  refine .object (Json.ascending_iff_keys.2 ?_) ?_
  · change ["id", "jsonrpc", "method", "params"].Pairwise (· < ·)
    decide
  · intro member mem
    simp only [List.mem_cons, List.not_mem_nil, or_false] at mem
    rcases mem with rfl | rfl | rfl | rfl
    · exact .number 126 (show 1 < Json.significandBound by decide)
    · exact .string 126 _
    · exact .string 126 _
    · exact params

theorem parse_request (url : String) : Json.parse (request url call).body = .ok (requestJson call) :=
  Json.parse_compact (canonical_requestJson call)

/-- The request asks by one procedure, and digits of the given bytes are all that it says besides. -/
def AsksFor (body method : String) (argument : ByteString) : Prop :=
  ∃ members digits, Json.parse body = .ok (.object members) ∧
    Json.lookup? "method" members = some (.string method) ∧
    Json.lookup? "params" members = some (.array [.string digits]) ∧
    Hex.decode digits = .ok argument

theorem asksFor_request (url : String) :
    AsksFor (request url call).body call.method call.argument :=
  ⟨_, _, parse_request call url, rfl, rfl, Hex.decode_encode _⟩

end LedgerWallet.Rpc
