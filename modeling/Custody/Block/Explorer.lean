/-
  Custody.Block.Explorer
  ────────────────────────────────
  **HEADERS FROM A BLOCK EXPLORER.**

  A block explorer answers three questions over HTTP: whether a block is on
  the best chain and how high, what its header is, and how high the tip is.
  A header counts only if it hashes to the block that was asked for.

  The transport is an argument, so all that is decided here is decided by the
  answers.
-/
import Custody.Block.Header
import Custody.Http.Status
import Custody.Json.Parser
import Custody.Text.Blank
import Custody.Text.Numeral

namespace Custody

/-! ## §1. Questions and answers. -/

/-- An answer to a request. -/
structure Reply where
  status : Nat
  body : String
deriving DecidableEq, Repr

/-- Sends a request for an address; gives the answer, or why there is none. -/
abbrev Transport (m : Type → Type) := String → m (Except String Reply)

/-- What an explorer says of a block. -/
structure BlockStatus where
  inBestChain : Bool
  height : Option UInt64
deriving DecidableEq, Repr

instance : FromJson BlockStatus where
  fromJson? j := do
    let r ← j.record? ["in_best_chain", "height"] 0
    return { inBestChain := ← r.field "in_best_chain", height := ← r.field? "height" }

/-! ## §2. Explorers. -/

/-- An explorer, known by the address its questions start with. -/
structure Explorer where
  address : String
deriving DecidableEq, Repr

namespace Explorer

/-- The explorer at an address; slashes at its end do not count. -/
def ofAddress (address : String) : Explorer :=
  ⟨String.ofList (address.toList.reverse.dropWhile (· == '/')).reverse⟩

/-- The public explorer of the main network. -/
def mainnet : Explorer := ofAddress "https://blockstream.info/api"

/-- The public explorer of the test network. -/
def testnet : Explorer := ofAddress "https://blockstream.info/testnet/api"

variable {m : Type → Type} [Monad m]

/-- Sends a request; a request that cannot be sent is a fault of the relay. -/
def ask (explorer : Explorer) (send : Transport m) (path : String) :
    ExceptT RelayFault m Reply := do
  match ← send (explorer.address ++ path) with
  | .ok reply => return reply
  | .error reason => throw (.requestFailed reason)

/-- The text under a path; what is missing there is named by the fault. -/
def textAt (explorer : Explorer) (send : Transport m) (path missing : String) :
    ExceptT RelayFault m String := do
  let reply ← explorer.ask send path
  if reply.status = 404 then throw (.blockNotFound missing)
  if !Http.isSuccess reply.status then
    throw (.requestFailed s!"{explorer.address ++ path} returned {Http.showStatus reply.status}")
  return Text.trim reply.body

/-- The height of a block on the best chain. -/
def heightOf (explorer : Explorer) (send : Transport m) (block : String) :
    ExceptT RelayFault m UInt64 := do
  let reply ← explorer.ask send s!"/block/{block}/status"
  if !Http.isSuccess reply.status then throw (.blockNotFound block)
  match Json.read? reply.body with
  | none => throw (.requestFailed "error decoding response body")
  | some (status : BlockStatus) =>
    match status.inBestChain, status.height with
    | true, some height => return height
    | _, _ => throw (.notInBestChain block)

/-- The header of a block on the best chain. -/
def header (explorer : Explorer) (send : Transport m) (hash : Digest) :
    ExceptT RelayFault m Header := do
  let block := displayHash hash
  let height ← explorer.heightOf send block
  let text ← explorer.textAt send s!"/block/{block}/header" block
  match Hex.decode text with
  | .error fault => throw (.malformed s!"invalid header hex: {fault.message}")
  | .ok raw =>
    let header ← ExceptT.mk (pure (Header.ofRaw raw height))
    if header.blockHash ≠ hash then
      throw (.malformed s!"header for {block} hashes to {displayHash header.blockHash}")
    return header

/-- The height of the tip. -/
def tip (explorer : Explorer) (send : Transport m) : ExceptT RelayFault m UInt64 := do
  let text ← explorer.textAt send "/blocks/tip/height" "tip"
  match Text.readUInt64 text with
  | .ok height => return height
  | .error fault => throw (.malformed s!"invalid height: {fault.message}")

/-- An explorer as a source of headers. -/
def source (explorer : Explorer) (send : Transport m) : HeaderSource m where
  header hash := (explorer.header send hash).run
  tip := (explorer.tip send).run

end Explorer

end Custody
