import QuoteProver.Bonsai.Client
import QuoteProver.Bonsai.Message
import QuoteProver.Bonsai.Receipt
import QuoteProver.Bytes
import QuoteProver.Codec.Failure
import QuoteProver.Codec.Format
import QuoteProver.Codec.Shape
import QuoteProver.Codec.Stream
import QuoteProver.Collateral.Basic
import QuoteProver.Collateral.Catalog
import QuoteProver.Collateral.Fetch
import QuoteProver.Collateral.Record
import QuoteProver.Command.Arguments
import QuoteProver.Command.Grammar
import QuoteProver.Command.Run
import QuoteProver.Config.Backends
import QuoteProver.Config.Environment
import QuoteProver.Config.File
import QuoteProver.Config.Value
import QuoteProver.Crypto.Ecdsa
import QuoteProver.Crypto.Keccak
import QuoteProver.Crypto.Secp256k1
import QuoteProver.Crypto.Sha256
import QuoteProver.Decimal.Binary64
import QuoteProver.Decimal.Numeral
import QuoteProver.Decimal.Shortest
import QuoteProver.Der.Certificate
import QuoteProver.Der.Element
import QuoteProver.Der.Oid
import QuoteProver.Der.Reader
import QuoteProver.Json.Document
import QuoteProver.Json.Node
import QuoteProver.Json.Number
import QuoteProver.Json.Record
import QuoteProver.Log.Entry
import QuoteProver.Log.Filter
import QuoteProver.Main
import QuoteProver.Proofs.Bonsai.Protocol
import QuoteProver.Proofs.Bonsai.ReceiptWire
import QuoteProver.Proofs.Bytes
import QuoteProver.Proofs.Codec.ByteString
import QuoteProver.Proofs.Codec.Canonical
import QuoteProver.Proofs.Codec.Causes
import QuoteProver.Proofs.Codec.Finality
import QuoteProver.Proofs.Codec.Reading
import QuoteProver.Proofs.Codec.Spelling
import QuoteProver.Proofs.Codec.Stream
import QuoteProver.Proofs.Codec.Truncation
import QuoteProver.Proofs.Codec.Work
import QuoteProver.Proofs.Collateral.Encoding
import QuoteProver.Proofs.Collateral.Fetch
import QuoteProver.Proofs.Collateral.SignedRecord
import QuoteProver.Proofs.Command.Artifacts
import QuoteProver.Proofs.Command.Prove
import QuoteProver.Proofs.Config.Completion
import QuoteProver.Proofs.Config.Overrides
import QuoteProver.Proofs.Crypto.Curve
import QuoteProver.Proofs.Crypto.Primes
import QuoteProver.Proofs.Der.Encoding
import QuoteProver.Proofs.Except
import QuoteProver.Proofs.Json.Grammar
import QuoteProver.Proofs.Json.Members
import QuoteProver.Proofs.Json.Reading
import QuoteProver.Proofs.Json.Records
import QuoteProver.Proofs.Json.Tokens
import QuoteProver.Proofs.Json.Writing
import QuoteProver.Proofs.Prover.Conduct
import QuoteProver.Proofs.Prover.Configured
import QuoteProver.Proofs.Prover.GuestInput
import QuoteProver.Proofs.Prover.Hearing
import QuoteProver.Proofs.Prover.Polling
import QuoteProver.Proofs.Prover.Session
import QuoteProver.Proofs.Quote.Armor
import QuoteProver.Proofs.Quote.Bounds
import QuoteProver.Proofs.Quote.Chain
import QuoteProver.Proofs.Quote.EntryKeys
import QuoteProver.Proofs.Quote.Extension
import QuoteProver.Proofs.Quote.File
import QuoteProver.Proofs.Quote.Keys
import QuoteProver.Proofs.Succinct.AccountKey
import QuoteProver.Proofs.Succinct.Download
import QuoteProver.Proofs.Succinct.ProofWire
import QuoteProver.Proofs.Succinct.Protocol
import QuoteProver.Proofs.Succinct.SigningHash
import QuoteProver.Proofs.Text.Base64
import QuoteProver.Proofs.Text.Hex
import QuoteProver.Proofs.Text.Pem
import QuoteProver.Proofs.Text.Trim
import QuoteProver.Proofs.Text.Utf8
import QuoteProver.Prover.Client
import QuoteProver.Prover.Exchange
import QuoteProver.Prover.Failure
import QuoteProver.Prover.GuestInput
import QuoteProver.Prover.Poller
import QuoteProver.Prover.Proof
import QuoteProver.Prover.ProofSystem
import QuoteProver.Prover.Session
import QuoteProver.Quote.Basic
import QuoteProver.Quote.Chain
import QuoteProver.Quote.Failure
import QuoteProver.Quote.File
import QuoteProver.Quote.Layout
import QuoteProver.Quote.Summary
import QuoteProver.Succinct.Account
import QuoteProver.Succinct.Client
import QuoteProver.Succinct.Download
import QuoteProver.Succinct.Message
import QuoteProver.Succinct.Proof
import QuoteProver.Succinct.Stdin
import QuoteProver.Text.Base64
import QuoteProver.Text.Blank
import QuoteProver.Text.Decimal
import QuoteProver.Text.Hex
import QuoteProver.Text.Pem
import QuoteProver.Text.Printable
import QuoteProver.Text.Quoted
import QuoteProver.Text.Utf8
import QuoteProver.Web.Host
import QuoteProver.Web.Http
import QuoteProver.Web.Url
