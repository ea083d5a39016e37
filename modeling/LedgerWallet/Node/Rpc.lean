import LedgerWallet.Bytes.Lenient
import LedgerWallet.Node.Basic
import LedgerWallet.Url.Basic

namespace LedgerWallet.Call

def method : Call → String
  | .submit _ => "submitTransaction"
  | .accountState _ => "getAccountState"
  | .transactionState _ => "getTransactionState"

def argument : Call → ByteString
  | .submit signed => signed
  | .accountState address => address.bytes.toList
  | .transactionState id => id.toList

end LedgerWallet.Call

namespace LedgerWallet.Rpc

def trimSlashes (chars : List Char) : List Char :=
  (chars.reverse.dropWhile (· = '/')).reverse

def pathEnd : List Char := ['/', 'r', 'p', 'c']

def endpointChars (chars : List Char) : List Char :=
  let trimmed := trimSlashes chars
  if pathEnd.isSuffixOf trimmed then trimmed else trimmed ++ pathEnd

def endpoint (nodeUrl : String) : String :=
  String.ofList (endpointChars nodeUrl.toList)

structure Request where
  url : String
  body : String
  deriving DecidableEq

def requestJson (call : Call) : Json :=
  .object [("id", .number (.natural 1)), ("jsonrpc", .string "2.0"),
    ("method", .string call.method),
    ("params", .array [.string (Hex.encode call.argument)])]

def request (url : String) (call : Call) : Request :=
  ⟨url, (requestJson call).compact⟩

/-- The result in a response: the text must be an object, without an error or with a null one,
and with a result that is not null. -/
def resultOf (method text : String) : Except NodeError Json :=
  if text = "" then .error (.invalidResponse ("empty response to " ++ method))
  else
    match Json.parse text with
    | .error error => .error (.invalidResponse (method ++ ": " ++ error.message))
    | .ok response =>
      let missing : Except NodeError Json :=
        .error (.invalidResponse ("no result in response to " ++ method ++ ": " ++ text))
      match response with
      | .object members =>
        match Json.lookup? "error" members with
        | some error =>
          if error.isNull then
            match Json.lookup? "result" members with
            | some result => if result.isNull then missing else .ok result
            | none => missing
          else .error (.refused (method ++ ": " ++ error.compact))
        | none =>
          match Json.lookup? "result" members with
          | some result => if result.isNull then missing else .ok result
          | none => missing
      | _ => missing

structure MessageDraft where
  id : Option String
  state : Option String

def message : Json.Record MessageDraft (String × String) where
  kind := "TransactionStateMsg"
  members := [
    .ofShape "id" (.text "a string") MessageDraft.id fun v d => { d with id := some v },
    .ofShape "state" (.text "a string") MessageDraft.state fun v d => { d with state := some v }]
  blank := ⟨none, none⟩
  complete draft := do
    let id ← Json.required "id" draft.id
    let state ← Json.required "state" draft.state
    return (id, state)

def invalid {α : Type} (fault : Json.Fault) : Except NodeError α :=
  .error (.invalidResponse fault.text)

def transactionStateOf (result : Json) : Except NodeError TransactionState :=
  match message.ofValue result with
  | .ok (id, state) => TransactionState.ofMessage id state
  | .error fault => invalid fault

def accountStateOf (result : Json) : Except NodeError AccountState :=
  match AccountState.record.ofValue result with
  | .ok state => .ok state
  | .error fault => invalid fault

/-- The body that comes back for a request, after the requests that went before. -/
abbrev Transport := List Request → Request → Reply ByteString

def ask {α : Type} (transport : Transport) (url : String)
    (read : Json → Except NodeError α) (calls : List Call) (call : Call) : Reply α :=
  let reply := transport (calls.map (request url)) (request url call)
  ⟨reply.delay, do read (← resultOf call.method (Utf8.textOfBody (← reply.answer)))⟩

def node (transport : Transport) (nodeUrl : String) : Node :=
  let url := endpoint nodeUrl
  { submit := fun calls signed => ask transport url transactionStateOf calls (.submit signed)
    accountState := fun calls address =>
      ask transport url accountStateOf calls (.accountState address)
    transactionState := fun calls id =>
      ask transport url transactionStateOf calls (.transactionState id) }

def unsent (url : Url) (reason : String) : NodeError :=
  .http ("error sending request for url (" ++ url.text ++ "): error trying to connect: " ++ reason)

/-- Why no connection to an address comes about where there is no network: its host is a number, or
a name that has to be looked up first. -/
def noConnection (url : Url) : NodeError :=
  let noRoute := unsent url "tcp connect error: Network is unreachable (os error 101)"
  if String.ofList url.scheme ≠ "http" then unsent url "invalid URL, scheme is not http"
  else
    match url.authority with
    | some (.domain name, _) =>
      if String.ofList name = "localhost" then noRoute
      else unsent url ("dns error: failed to lookup address information: " ++
        "Temporary failure in name resolution")
    | _ => noRoute

def unsendableMarks : List Char := ['"', '`', '\x7b', '\x7d']

def addressLimit : Nat := 65534

def isSendable (url : Url) : Bool :=
  (Url.authorityText url.authority).all (fun c => !unsendableMarks.contains c) &&
    url.text.utf8ByteSize ≤ addressLimit

def unmade (url : Url) (reason : String) : NodeError :=
  .http ("builder error for url (" ++ url.text ++ "): " ++ reason)

/-- Every request fails: at once when its address cannot be read or is none of the web, and
otherwise because no network can be reached. -/
def unreachable : Transport := fun _ request =>
  match Url.read request.url with
  | .error fault => ⟨0, .error (.http ("builder error: " ++ fault.message))⟩
  | .ok url =>
    let scheme := String.ofList url.scheme
    if scheme ≠ "http" ∧ scheme ≠ "https" then
      ⟨0, .error (unmade url "URL scheme is not allowed")⟩
    else if !isSendable url then ⟨0, .error (unmade url "Parsed Url is not a valid Uri")⟩
    else ⟨0, .error (noConnection url)⟩

end LedgerWallet.Rpc
