/-
  The block encoding that reuses encoded transactions.

  Source: `crates/payload/builder/src/encode.rs` (lines 33-164:
  `encode_block_with_transactions`, `EncodedBlockTransactionsBuilder`).

  `alloy_rlp::Header` and the lists derived with it follow the RLP standard.  Headers,
  ommers and withdrawals enter as their encodings.
-/
import Monotempo.Chain.Hardfork

set_option autoImplicit false

namespace Monotempo.Block

open Chain

/-! ## RLP -/

/-- `alloy_rlp::Header`. -/
structure RlpHeader where
  list : Bool
  payloadLength : ℕ

/-- `length_of_length`. -/
def lengthOfLength (payloadLength : ℕ) : ℕ :=
  if payloadLength < 56 then 1 else 1 + (payloadLength.log2 / 8 + 1)

/-- `Header::encode`: a long length follows in big-endian bytes. -/
def RlpHeader.encode (header : RlpHeader) : List UInt8 :=
  if header.payloadLength < 56 then
    [.ofNat ((if header.list then 0xc0 else 0x80) + header.payloadLength)]
  else
    let lenBe := (List.range (header.payloadLength.log2 / 8 + 1)).reverse.map fun i =>
      UInt8.ofNat (header.payloadLength >>> (8 * i))
    .ofNat ((if header.list then 0xf7 else 0xb7) + lenBe.length) :: lenBe

theorem RlpHeader.length_encode (header : RlpHeader) :
    header.encode.length = lengthOfLength header.payloadLength := by
  unfold encode lengthOfLength
  split
  · rfl
  · simp [Nat.add_comm]

/-- A list of encoded items. -/
def rlpList (items : List (List UInt8)) : List UInt8 :=
  RlpHeader.encode ⟨true, items.flatten.length⟩ ++ items.flatten

/-- A byte string; a single byte below `0x80` is its own encoding. -/
def rlpString : List UInt8 → List UInt8
  | [byte] => if byte < 0x80 then [byte] else RlpHeader.encode ⟨false, 1⟩ ++ [byte]
  | bytes => RlpHeader.encode ⟨false, bytes.length⟩ ++ bytes

/-! ## Blocks -/

/-- A transaction by its encoding: an RLP list, or a type byte and a payload. -/
inductive EncodedTx where
  | legacy (rlp : List UInt8)
  | typed (type first : UInt8) (rest : List UInt8)

namespace EncodedTx

def isLegacy : EncodedTx → Bool
  | .legacy _ => true
  | .typed _ _ _ => false

/-- `encoded_2718`. -/
def encoded2718 : EncodedTx → List UInt8
  | .legacy rlp => rlp
  | .typed type first rest => type :: first :: rest

/-- The element of a block's transaction list: typed transactions are strings. -/
def encode : EncodedTx → List UInt8
  | .legacy rlp => rlp
  | .typed type first rest => rlpString (type :: first :: rest)

end EncodedTx

/-- The parts of a block that are encoded. -/
structure BlockParts where
  header : List UInt8
  transactions : List EncodedTx
  ommers : List (List UInt8)
  withdrawals : Option (List (List UInt8))

/-- The regular encoding of a block. -/
def BlockParts.encode (block : BlockParts) : List UInt8 :=
  rlpList ([block.header, rlpList (block.transactions.map EncodedTx.encode),
    rlpList block.ommers] ++ (block.withdrawals.map rlpList).toList)

/-! ## Cached transactions -/

structure EncodedBlockTransactionList where
  transactionCount : ℕ
  rlp : List UInt8

/-- `encode_block_with_transactions`: the output, and whether the cache was used. -/
def EncodedBlockTransactionList.encodeBlockWithTransactions (cached : EncodedBlockTransactionList)
    (block : BlockParts) (out : List UInt8) : List UInt8 × Bool :=
  if block.transactions.length ≠ cached.transactionCount then (out ++ block.encode, false)
  else
    let payloadLength := block.header.length + cached.rlp.length + (rlpList block.ommers).length +
      (block.withdrawals.map fun withdrawals => (rlpList withdrawals).length).getD 0
    let out := out ++ RlpHeader.encode ⟨true, payloadLength⟩ ++ block.header ++ cached.rlp ++
      rlpList block.ommers
    match block.withdrawals with
    | some withdrawals => (out ++ rlpList withdrawals, true)
    | none => (out, true)

/-- `MAX_LIST_HEADER_LEN`. -/
def maxListHeaderLen : ℕ := lengthOfLength u64Max

structure EncodedBlockTransactionsBuilder where
  transactionCount : ℕ
  buffer : List UInt8

namespace EncodedBlockTransactionsBuilder

variable (builder : EncodedBlockTransactionsBuilder) (txs : List EncodedTx)

/-- `default`. -/
def empty : EncodedBlockTransactionsBuilder := ⟨0, List.replicate maxListHeaderLen 0⟩

def push (tx : EncodedTx) (encoded2718 : List UInt8) : EncodedBlockTransactionsBuilder where
  transactionCount := builder.transactionCount + 1
  buffer := builder.buffer ++
    (if tx.isLegacy then [] else RlpHeader.encode ⟨false, encoded2718.length⟩) ++ encoded2718

/-- `finish`: the header is written over the end of the reserved bytes. -/
def finish : EncodedBlockTransactionList :=
  let header : RlpHeader := ⟨true, builder.buffer.length - maxListHeaderLen⟩
  let start := maxListHeaderLen - lengthOfLength header.payloadLength
  let buffer := builder.buffer.take start ++ header.encode ++
    builder.buffer.drop (start + header.encode.length)
  ⟨builder.transactionCount, buffer.drop start⟩

/-- The builder after some transactions. -/
def pushAll : EncodedBlockTransactionsBuilder :=
  txs.foldl (fun builder tx => builder.push tx tx.encoded2718) builder

theorem push_eq (tx : EncodedTx) : builder.push tx tx.encoded2718 =
    ⟨builder.transactionCount + 1, builder.buffer ++ tx.encode⟩ := by
  unfold push
  rw [List.append_assoc]
  cases tx with
  | legacy | typed => rfl

theorem pushAll_eq : builder.pushAll txs = ⟨builder.transactionCount + txs.length,
    builder.buffer ++ (txs.map EncodedTx.encode).flatten⟩ := by
  induction txs generalizing builder with
  | nil => simp [pushAll]
  | cons tx rest ih =>
    refine (ih (builder.push tx tx.encoded2718)).trans ?_
    rw [push_eq, List.map_cons, List.flatten_cons, List.append_assoc, List.length_cons,
      Nat.add_assoc, Nat.add_comm 1]

theorem lengthOfLength_le {payloadLength : ℕ} (h : payloadLength ≤ u64Max) :
    lengthOfLength payloadLength ≤ maxListHeaderLen := by
  show _ ≤ 9
  unfold lengthOfLength
  split
  · decide
  · rename_i hlong
    have hlog : payloadLength.log2 < 64 :=
      (Nat.log2_lt (by omega)).mpr (Nat.lt_of_le_of_lt h (by decide))
    omega

/-- The finished list is the encoding of what stands behind the reserved bytes. -/
theorem finish_eq {count : ℕ} {items : List (List UInt8)} (h : items.flatten.length ≤ u64Max) :
    finish ⟨count, List.replicate maxListHeaderLen 0 ++ items.flatten⟩ =
      ⟨count, rlpList items⟩ := by
  have hfits := lengthOfLength_le h
  unfold finish rlpList
  simp only [List.length_append, List.length_replicate, Nat.add_sub_cancel_left,
    RlpHeader.length_encode, Nat.sub_add_cancel hfits]
  rw [List.take_append_of_le_length (by simp), List.append_assoc,
    List.drop_left' (by simp), List.drop_left' List.length_replicate]

/-- The block encoding that copies the list built from the block's transactions is the
regular one; a block with another number of transactions is encoded anew. -/
theorem cached_encoding_is_regular (block : BlockParts) (out : List UInt8)
    (hpayload : (block.transactions.map EncodedTx.encode).flatten.length ≤ u64Max) :
    (empty.pushAll block.transactions).finish.encodeBlockWithTransactions block out =
      (out ++ block.encode, true) ∧
    (∀ payloadLength ≤ u64Max, lengthOfLength payloadLength ≤ maxListHeaderLen) ∧
    ∀ (cached : EncodedBlockTransactionList) (other : BlockParts),
      other.transactions.length ≠ cached.transactionCount →
      cached.encodeBlockWithTransactions other out = (out ++ other.encode, false) := by
  refine ⟨?_, fun _ => lengthOfLength_le, fun cached other hcount => if_pos hcount⟩
  rw [pushAll_eq, empty, finish_eq hpayload]
  unfold EncodedBlockTransactionList.encodeBlockWithTransactions BlockParts.encode
  rw [if_neg (by simp)]
  cases block.withdrawals with
  | none | some => simp [rlpList, Nat.add_assoc]

theorem cached_encoding_two_transactions :
    let block : BlockParts := ⟨[0xc0], [.legacy [0xc0], .typed 2 0xc0 []], [], some []⟩
    (empty.pushAll block.transactions).finish.encodeBlockWithTransactions block [] =
      ([0xc8, 0xc0, 0xc4, 0xc0, 0x82, 2, 0xc0, 0xc0, 0xc0], true) :=
  (cached_encoding_is_regular _ [] (by decide)).1

end EncodedBlockTransactionsBuilder

end Monotempo.Block
