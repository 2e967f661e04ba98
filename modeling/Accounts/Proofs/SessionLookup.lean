import Accounts.Proofs.Record
import Accounts.Store

/-!
# The lookup by session

Two byte strings are compared by gathering the differences at all places. A
difference that was gathered is never lost again, so the comparison decides
equality, and the lookup by session finds the first row that has the whole text.
-/

namespace Accounts

/-- What was gathered at earlier places stays: from any start, nothing is there in the end just if
nothing was there before and no place differs. -/
theorem gathered_differences_eq_zero_iff {left right : Bytes}
    (lengths : left.length = right.length) (start : Byte) :
    (List.zipWith (· ^^^ ·) left right).foldl (· ||| ·) start = 0 ↔
      start = 0 ∧ left = right := by
  -- the start is general, since the first difference is gathered into it
  induction left generalizing right start with
  | nil =>
      obtain rfl : right = [] := List.length_eq_zero_iff.mp lengths.symm
      simp
  | cons byte left ih =>
      cases right with
      | nil => simp at lengths
      | cons other right =>
          have rest : left.length = right.length := Nat.succ.inj lengths
          rw [List.zipWith_cons_cons, List.foldl_cons, ih rest, UInt8.or_eq_zero_iff,
            UInt8.xor_eq_zero_iff, and_assoc, List.cons.injEq]

theorem same_bytes_iff {left right : Bytes} : sameBytes left right = true ↔ left = right := by
  simp only [sameBytes, Bool.and_eq_true, beq_iff_eq]
  constructor
  · rintro ⟨lengths, zero⟩
    exact ((gathered_differences_eq_zero_iff lengths 0).mp zero).2
  · rintro rfl
    exact ⟨rfl, (gathered_differences_eq_zero_iff rfl 0).mpr ⟨rfl, rfl⟩⟩

theorem utf8_injective {left right : String} (same : utf8 left = utf8 right) : left = right := by
  have read := congrArg ofUtf8? same
  rwa [of_utf8_utf8, of_utf8_utf8, Option.some_inj] at read

namespace Store

theorem find_by_session_eq (store : Store) (session : String) :
    store.findBySession session =
      if session = "" then none else store.rows.find? fun row => row.session == session := by
  unfold findBySession
  by_cases empty : session = ""
  · simp [empty]
  · rw [if_neg (by simpa using empty), if_neg empty]
    congr 1
    funext row
    rw [Bool.eq_iff_iff, Bool.and_eq_true, same_bytes_iff, beq_iff_eq]
    constructor
    · rintro ⟨_, same⟩
      exact utf8_injective same
    · rintro rfl
      exact ⟨by simpa [Account.hasSession] using empty, rfl⟩

theorem find_by_session_eq_none_iff {store : Store} {session : String} :
    store.findBySession session = none ↔
      session = "" ∨ ∀ row ∈ store.rows, row.session ≠ session := by
  rw [find_by_session_eq]
  by_cases empty : session = ""
  · simp [empty]
  · rw [if_neg empty, or_iff_right empty, List.find?_eq_none]
    simp

theorem find_by_session_eq_some_iff {store : Store} {session : String} {account : Account} :
    store.findBySession session = some account ↔
      session ≠ "" ∧ account.session = session ∧
        ∃ earlier later, store.rows = earlier ++ account :: later ∧
          ∀ row ∈ earlier, row.session ≠ session := by
  rw [find_by_session_eq]
  by_cases empty : session = ""
  · simp [empty]
  · rw [if_neg empty, List.find?_eq_some_iff_append]
    simp [empty]

/-- The comparison of all bytes at once tells equal strings from others of any lengths. So a session
finds the first row, in the order in which the accounts came, that has exactly this text; it finds
nothing if it is empty or no row has it. -/
theorem session_lookup_is_exact :
    (∀ left right : Bytes, sameBytes left right = true ↔ left = right) ∧
      ∀ (store : Store) (session : String),
        (store.findBySession session = none ↔
          session = "" ∨ ∀ row ∈ store.rows, row.session ≠ session) ∧
        ∀ account, store.findBySession session = some account ↔
          session ≠ "" ∧ account.session = session ∧
            ∃ earlier later, store.rows = earlier ++ account :: later ∧
              ∀ row ∈ earlier, row.session ≠ session := by
  refine ⟨fun _ _ => same_bytes_iff, ?_⟩
  intro store session
  exact ⟨find_by_session_eq_none_iff, fun _ => find_by_session_eq_some_iff⟩

/-- Two accounts with one session, behind one with a longer session and one with none. -/
def tokenAccounts : List Account :=
  [("carol", "tokens"), ("dave", ""), ("eve", "token"), ("bob", "token")].map fun entry =>
    ⟨entry.1, Vector.replicate 16 1, Vector.replicate 32 2, 1000, entry.2⟩

theorem eve_holds_the_shared_token :
    let store := load (.sound "users" (some (tokenAccounts.flatMap fun row => row.encode))) 4
    store.rows = tokenAccounts ∧
      (store.findBySession "token").map Account.username = some "eve" ∧
      store.findBySession "toke" = none ∧ store.findBySession "" = none := by
  intro store
  have rows : store.rows = tokenAccounts := by decide +kernel
  obtain ⟨_, lookup⟩ := session_lookup_is_exact
  have eve : store.findBySession "token" = some tokenAccounts[2] := by
    refine ((lookup store "token").2 _).mpr
      ⟨by decide, rfl, tokenAccounts.take 2, tokenAccounts.drop 3, rows, ?_⟩
    decide
  have cut : ∀ row ∈ store.rows, row.session ≠ "toke" := by
    rw [rows]
    decide
  exact ⟨rows, congrArg _ eve, (lookup store "toke").1.mpr (.inr cut),
    (lookup store "").1.mpr (.inl rfl)⟩

end Store

end Accounts
