import LedgerWallet.Json.ByteList
import LedgerWallet.Node.Ledger
import LedgerWallet.Program.Run
import LedgerWallet.Main
import LedgerWallet.Proofs.Store.RoundTrip
import LedgerWallet.Proofs.Wallet.Visits
import LedgerWallet.Proofs.Console.Reach
import LedgerWallet.Proofs.Wallet.Accounts
import LedgerWallet.Proofs.Console.Sending
import LedgerWallet.Proofs.Console.Isolation
import LedgerWallet.Proofs.Store.Positions
import LedgerWallet.Proofs.Console.Saving
import LedgerWallet.Proofs.Text.Words
import LedgerWallet.Proofs.Console.Prompting
import LedgerWallet.Proofs.Bytes.Numbers
import LedgerWallet.Proofs.Crypto.Curve
import LedgerWallet.Proofs.Crypto.Primality
import LedgerWallet.Proofs.Crypto.Points
import LedgerWallet.Proofs.Crypto.Signatures
import LedgerWallet.Proofs.Wallet.Submission
import LedgerWallet.Proofs.Transfer.Encoding
import LedgerWallet.Proofs.Wallet.Selection
import LedgerWallet.Proofs.Wallet.Signing
import LedgerWallet.Proofs.Node.Responses
import LedgerWallet.Proofs.Wallet.Selectors
import LedgerWallet.Proofs.Console.Choosing
import LedgerWallet.Proofs.Store.Atomicity
import LedgerWallet.Proofs.Console.Forms
import LedgerWallet.Proofs.Console.Course
import LedgerWallet.Proofs.Store.Loading
import LedgerWallet.Proofs.Console.Quitting
import LedgerWallet.Proofs.Console.Dialogue
import LedgerWallet.Proofs.Transfer.Requests
import LedgerWallet.Proofs.Transfer.Amounts
import LedgerWallet.Proofs.Console.Messages
import LedgerWallet.Proofs.Node.Requests
import LedgerWallet.Proofs.Node.Addresses
import LedgerWallet.Proofs.Console.Ids
import LedgerWallet.Proofs.Console.Tracking
import LedgerWallet.Proofs.Json.Naturals
import LedgerWallet.Proofs.Json.ByteLists
import LedgerWallet.Proofs.Config.Saving
import LedgerWallet.Proofs.Json.Fields
import LedgerWallet.Proofs.Config.Settings
import LedgerWallet.Proofs.Console.Listing
