import Mathlib.Data.List.Infix
import Accounts.Proofs.Opening

/-!
# Replaying a backing that has grown

A record is judged by the rows of the records in front of it alone. So a record at the
end of a backing adds its account or nothing, and the rows of a backing stay in front
when records are appended to it, or when more of it is read.
-/

namespace Accounts

theorem records_of_one {record : Bytes} (sized : record.length = recordWidth) :
    recordsOf record = [record] := by
  have one : record.length / recordWidth = 1 := by
    rw [sized]
    exact Nat.div_self (by decide)
  rw [recordsOf, one, splitRecords, splitRecords, List.take_of_length_le sized.le]

namespace Store

/-- Whether a record leaves the rows as they are: it cannot be read, or its name is there. -/
def Passes (rows : List Account) (record : Bytes) : Prop :=
  ∀ account, Account.decode? record = some account → account.username ∈ rows.map Account.username

theorem keep_of_passes {rows : List Account} {record : Bytes} (passes : Passes rows record) :
    keep rows record = rows := by
  unfold keep
  cases decoded : Account.decode? record with
  | none => rfl
  | some account =>
      have known := has_username_iff.mpr (passes account decoded)
      simp only [known, if_true]

theorem keep_of_new {rows : List Account} {record : Bytes} {account : Account}
    (decoded : Account.decode? record = some account)
    (fresh : account.username ∉ rows.map Account.username) :
    keep rows record = rows ++ [account] := by
  have unknown : ¬ hasUsername rows account.username = true := fresh ∘ has_username_iff.mp
  simp only [keep, decoded, if_neg unknown]

theorem rows_prefix_keep (rows : List Account) (record : Bytes) : rows <+: keep rows record := by
  by_cases passes : Passes rows record
  · rw [keep_of_passes passes]
  · simp only [Passes, not_forall] at passes
    obtain ⟨account, decoded, fresh⟩ := passes
    rw [keep_of_new decoded fresh]
    exact List.prefix_append rows [account]

theorem rows_prefix_keep_all (rows : List Account) (records : List Bytes) :
    rows <+: keepAll rows records := by
  induction records generalizing rows with
  | nil => exact List.prefix_rfl
  | cons record records ih => exact (rows_prefix_keep rows record).trans (ih (keep rows record))

theorem keep_all_mono (rows : List Account) {records longer : List Bytes}
    (front : records <+: longer) : keepAll rows records <+: keepAll rows longer := by
  obtain ⟨later, rfl⟩ := front
  rw [keep_all_append]
  exact rows_prefix_keep_all _ later

end Store

/-- The same place with other content. -/
def Backing.holding (backing : Backing) (bytes : Bytes) : Backing :=
  { backing with content := some bytes }

namespace Store

section

variable {backing : Backing} {bytes : Bytes} (capacity : Nat)

theorem load_holding (readable : backing.readFault = none)
    (aligned : bytes.length % recordWidth = 0) :
    tryLoad (backing.holding bytes) capacity = .ok (load (backing.holding bytes) capacity) ∧
      (load (backing.holding bytes) capacity).rows =
        keepAll [] ((recordsOf bytes).take capacity) := by
  obtain ⟨store, loaded, opened⟩ := try_load_whole capacity
    (⟨readable, aligned⟩ : (backing.holding bytes).Whole)
  have same : load (backing.holding bytes) capacity = store := load_eq_of_start (.inr loaded)
  rw [same]
  exact ⟨loaded, opened.rows_eq⟩

theorem keep_all_one_more {record : Bytes} (aligned : bytes.length % recordWidth = 0)
    (sized : record.length = recordWidth) :
    keepAll [] ((recordsOf (bytes ++ record)).take capacity) =
      if bytes.length / recordWidth < capacity then
        keep (keepAll [] ((recordsOf bytes).take capacity)) record
      else keepAll [] ((recordsOf bytes).take capacity) := by
  rw [records_of_append record aligned, records_of_one sized]
  have count := records_of_length bytes
  split
  · rename_i room
    have all : (recordsOf bytes).take capacity = recordsOf bytes :=
      List.take_of_length_le (by omega)
    have longer : (recordsOf bytes ++ [record]).take capacity = recordsOf bytes ++ [record] :=
      List.take_of_length_le (by rw [List.length_append, List.length_singleton]; omega)
    rw [all, longer]
    exact keep_all_append [] (recordsOf bytes) [record]
  · rename_i full
    rw [List.take_append_of_le_length (by omega)]

variable (backing)

/-- The rows of an aligned content, of the same content with one more record, read with a greater
capacity, and with any whole number of records behind it. -/
theorem replay_is_incremental (readable : backing.readFault = none)
    (aligned : bytes.length % recordWidth = 0) :
    let opened (content : Bytes) (capacity : Nat) : Store := load (backing.holding content) capacity
    let rows := (opened bytes capacity).rows
    (∀ more : Bytes, more.length % recordWidth = 0 →
      tryLoad (backing.holding (bytes ++ more)) capacity = .ok (opened (bytes ++ more) capacity) ∧
        rows <+: (opened (bytes ++ more) capacity).rows) ∧
      (∀ larger, capacity ≤ larger → rows <+: (opened bytes larger).rows) ∧
      ∀ record : Bytes, record.length = recordWidth →
        let longer := (opened (bytes ++ record) capacity).rows
        (capacity ≤ bytes.length / recordWidth ∨ Passes rows record → longer = rows) ∧
          ∀ account, bytes.length / recordWidth < capacity →
            Account.decode? record = some account →
            account.username ∉ rows.map Account.username → longer = rows ++ [account] := by
  intro opened rows
  have rowsEq : rows = keepAll [] ((recordsOf bytes).take capacity) :=
    (load_holding capacity readable aligned).2
  refine ⟨?_, ?_, ?_⟩
  · intro more whole
    have alignedMore : (bytes ++ more).length % recordWidth = 0 := by
      rw [List.length_append, Nat.add_mod, aligned, whole]
      rfl
    obtain ⟨loaded, moreRows⟩ := load_holding capacity readable alignedMore
    refine ⟨loaded, ?_⟩
    rw [rowsEq, moreRows, records_of_append more aligned]
    exact keep_all_mono [] (List.IsPrefix.take (List.prefix_append _ _) capacity)
  · intro larger least
    rw [rowsEq, (load_holding larger readable aligned).2]
    exact keep_all_mono [] (List.take_prefix_take_left least)
  · intro record sized longer
    have alignedMore : (bytes ++ record).length % recordWidth = 0 := by
      rw [List.length_append, Nat.add_mod, aligned, sized]
      rfl
    have oneMore := keep_all_one_more capacity aligned sized
    rw [← (load_holding capacity readable alignedMore).2, ← rowsEq] at oneMore
    constructor
    · rintro (full | passes)
      · rwa [if_neg (Nat.not_lt.mpr full)] at oneMore
      · rwa [keep_of_passes passes, ite_self] at oneMore
    · intro account room decoded fresh
      rwa [if_pos room, keep_of_new decoded fresh] at oneMore

end

theorem dave_comes_behind_carol :
    let account (username : String) (salt : Byte) : Account :=
      ⟨username, Vector.replicate 16 salt, Vector.replicate 32 9, 1000, "token"⟩
    let opened (content : Bytes) (capacity : Nat) : Store :=
      load (Backing.holding (.sound "users" none) content) capacity
    let dave := account "dave" 5
    (opened repeatedBytes 6).rows = [account "eve" 1, account "bob" 3, account "carol" 4] ∧
      (opened (repeatedBytes ++ dave.encode) 6).rows = (opened repeatedBytes 6).rows ++ [dave] ∧
      (opened (repeatedBytes ++ dave.encode) 5).rows = (opened repeatedBytes 5).rows ∧
      (opened (repeatedBytes ++ (account "bob" 5).encode) 6).rows = (opened repeatedBytes 6).rows ∧
      (opened repeatedBytes 4).rows <+: (opened repeatedBytes 6).rows ∧
      (opened repeatedBytes 6).rows <+:
        (opened (repeatedBytes ++ (dave.encode ++ List.replicate 149 0xff)) 6).rows := by
  intro account opened dave
  have rows : (opened repeatedBytes 6).rows =
      [account "eve" 1, account "bob" 3, account "carol" 4] := by decide +kernel
  have aligned : repeatedBytes.length % recordWidth = 0 := by decide +kernel
  have total : repeatedBytes.length / recordWidth = 5 := by decide +kernel
  have sized : dave.encode.length = recordWidth := encode_length dave
  have bobSized : (account "bob" 5).encode.length = recordWidth := encode_length _
  have bobDecoded : Account.decode? (account "bob" 5).encode = some (account "bob" 5) := by
    decide +kernel
  have bobPasses : Passes (opened repeatedBytes 6).rows (account "bob" 5).encode := by
    intro bob decoded
    obtain rfl := Option.some_inj.mp (bobDecoded.symm.trans decoded)
    rw [rows]
    decide
  have daveDecoded : Account.decode? dave.encode = some dave := by decide +kernel
  have daveNew : dave.username ∉ (opened repeatedBytes 6).rows.map Account.username := by
    rw [rows]
    decide
  obtain ⟨appended, _, single⟩ := replay_is_incremental (.sound "users" none) 6 rfl aligned
  obtain ⟨_, widened, _⟩ := replay_is_incremental (.sound "users" none) 4 rfl aligned
  obtain ⟨_, _, full⟩ := replay_is_incremental (.sound "users" none) 5 rfl aligned
  exact ⟨rows, (single _ sized).2 dave (by rw [total]; decide) daveDecoded daveNew,
    (full _ sized).1 (.inl total.ge), (single _ bobSized).1 (.inr bobPasses),
    widened 6 (by decide), (appended _ (by decide +kernel)).2⟩

end Store

end Accounts
