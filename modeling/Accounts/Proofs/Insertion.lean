import Accounts.Proofs.Replay

/-!
# What an insertion comes to

The reasons against an account count in a fixed order, and the first of them is the
failure of the insertion. The append is the last one, so a refused insertion leaves
the rows as they were, and the backing too unless it was the append that failed. Then
the backing is as it was if appends to it are all or none, and in any case the
insertion can be tried again. An accepted one adds the account behind the rows and its
record behind the backing, and that record reads as the account.
-/

namespace Accounts

def faultOf {Value : Type} : Except Failure Value → Option Failure
  | .error failure => some failure
  | .ok _ => none

theorem fault_of_eq_some {Value : Type} {outcome : Except Failure Value} {failure : Failure} :
    faultOf outcome = some failure ↔ outcome = .error failure := by
  cases outcome <;> simp [faultOf]

theorem fault_of_eq_none {Value : Type} {outcome : Except Failure Value} :
    faultOf outcome = none ↔ ∃ value, outcome = .ok value := by
  cases outcome <;> simp [faultOf]

/-- What can be wrong with a username, in the order in which it counts. -/
def usernameFaults (username : String) : List (Option Failure) :=
  [if username = "" then some .emptyUsername else none,
    if maxUsernameBytes < username.utf8ByteSize then
      some (.usernameTooLong username.utf8ByteSize maxUsernameBytes) else none,
    if username.toList.any isControl then some .invalidUsername else none]

theorem fault_of_check_username (username : String) :
    faultOf (checkUsername username) = (usernameFaults username).findSome? id := by
  unfold checkUsername usernameFaults
  by_cases named : username = ""
  · simp [named, faultOf]
  · by_cases long : maxUsernameBytes < username.utf8ByteSize
    · simp [named, long, faultOf]
    · by_cases control : username.toList.any isControl = true
      · simp [named, long, control, faultOf]
      · simp [named, long, control, faultOf]

namespace Backing

variable {before after : Backing} {bytes : Bytes}

/-- What is assumed of a backing wherever a failing append must not change what it holds. The
failures of a real one can leave a part of the bytes, or all of them. -/
def AllOrNone (backing : Backing) : Prop := backing.leftover = none

/-- Nothing was added to a backing; an append can have been tried only where appending fails. -/
def Spared (before after : Backing) : Prop :=
  after = before ∨ before.appendFault ≠ none ∧ after = { before with tried := true }

/-- Bytes were not added to a backing: they were not appended at all, or their append failed. -/
def Left (before : Backing) (bytes : Bytes) (after : Backing) : Prop :=
  after = before ∨ before.appendFault ≠ none ∧ after = (before.append bytes).2

theorem append_of_fault {fault : Fault} (bytes : Bytes)
    (faulty : before.appendFault = some fault) :
    before.append bytes = (.error fault,
      match before.leftover with
      | none => { before with tried := true }
      | some count => before.withBytes (bytes.take count)) := by
  simp only [append, faulty]
  cases before.leftover with
  | none => rfl
  | some count => rfl

theorem append_of_working (bytes : Bytes) (working : before.appendFault = none) :
    before.append bytes =
      (.ok (), { before with content := some (before.bytes ++ bytes), tried := true }) := by
  simp only [append, working, withBytes, Backing.bytes]

theorem Left.spared (left : before.Left bytes after) (allOrNone : before.AllOrNone) :
    before.Spared after := by
  rcases left with same | ⟨faulty, rfl⟩
  · exact .inl same
  · obtain ⟨fault, failing⟩ := Option.ne_none_iff_exists'.mp faulty
    refine .inr ⟨faulty, ?_⟩
    rw [append_of_fault bytes failing, show before.leftover = none from allOrNone]

theorem Spared.content_eq (spared : before.Spared after) : after.content = before.content := by
  rcases spared with rfl | ⟨_, rfl⟩
  · rfl
  · rfl

theorem Left.eq_with (left : before.Left bytes after) :
    ∃ content tried, after = { before with content, tried } ∧
      (before.AllOrNone → content = before.content) ∧
      (content = before.content ∨ ∃ count, content = some (before.bytes ++ bytes.take count)) := by
  rcases left with rfl | ⟨faulty, rfl⟩
  · exact ⟨after.content, after.tried, rfl, fun _ => rfl, .inl rfl⟩
  · obtain ⟨fault, failing⟩ := Option.ne_none_iff_exists'.mp faulty
    rw [append_of_fault bytes failing]
    split
    · exact ⟨before.content, true, rfl, fun _ => rfl, .inl rfl⟩
    · rename_i count torn
      refine ⟨some (before.bytes ++ bytes.take count), true, rfl, ?_, .inr ⟨count, rfl⟩⟩
      intro allOrNone
      exact absurd (torn.symm.trans allOrNone) (Option.some_ne_none count)

/-- The backing behind an insertion that failed: only its append can have changed anything. -/
def afterRefusal (backing : Backing) (record : Bytes) : Failure → Backing
  | .storage _ => (backing.append record).2
  | _ => backing

theorem after_refusal_of_other {failure : Failure} (other : ∀ fault, failure ≠ .storage fault) :
    before.afterRefusal bytes failure = before := by
  cases failure with
  | storage fault => exact absurd rfl (other fault)
  | _ => rfl

end Backing

theorem username_fault_not_storage {username : String} {failure : Failure}
    (refused : checkUsername username = .error failure) (fault : Fault) :
    failure ≠ .storage fault := by
  rintro rfl
  unfold checkUsername at refused
  split_ifs at refused <;> simp at refused

namespace Store

/-- Why a table refuses an account, in the order in which it counts. -/
def refusals (store : Store) (username : String) : List (Option Failure) :=
  usernameFaults username ++
    [if store.capacity ≤ store.rows.length then some (.tableFull store.capacity) else none,
      if username ∈ store.usernames then some .accountExists else none,
      store.backing.appendFault.map .storage]

theorem refusals_eq_none_iff {store : Store} {username : String} :
    (store.refusals username).findSome? id = none ↔
      checkUsername username = .ok () ∧ store.rows.length < store.capacity ∧
        username ∉ store.usernames ∧ store.backing.appendFault = none := by
  have checked : (∃ value, checkUsername username = .ok value) ↔
      checkUsername username = .ok () := Unique.exists_iff
  rw [refusals, List.findSome?_append, ← fault_of_check_username, Option.or_eq_none_iff,
    fault_of_eq_none, checked]
  simp

theorem append_fault_of_refusal {store : Store} {username : String} {fault : Fault}
    (refused : (store.refusals username).findSome? id = some (.storage fault)) :
    store.backing.appendFault = some fault := by
  obtain ⟨reason, member, same⟩ := List.exists_of_findSome?_eq_some refused
  obtain rfl : reason = some (.storage fault) := same
  have unwritten : some (Failure.storage fault) = store.backing.appendFault.map .storage := by
    simpa [refusals, usernameFaults] using member
  obtain ⟨cause, faulty, same⟩ := Option.map_eq_some_iff.mp unwritten.symm
  rwa [Failure.storage.inj same] at faulty

/-- A table whose backing takes appends again. -/
def mended (store : Store) : Store :=
  { store with backing := { store.backing with appendFault := none } }

/-- A table with an account behind its rows and the record of it behind its backing. -/
def adding (store : Store) (account : Account) (journal : List Event) : Store :=
  { store with
    journal
    rows := store.rows ++ [account]
    backing := { store.backing with
      content := some (store.backing.bytes ++ account.encode)
      tried := true } }

section

variable (store : Store) {username : String} (salt : Salt) (passwordHash : PasswordHash)
  (iterations : UInt32)

theorem insert_refused {failure : Failure}
    (refused : (store.refusals username).findSome? id = some failure) :
    let record := (Account.new username salt passwordHash iterations).encode
    let backing := store.backing.afterRefusal record failure
    store.backing.Left record backing ∧
      ∃ journal, store.insert username salt passwordHash iterations =
        (.error failure, { store with journal, backing }) := by
  intro record backing
  rw [refusals, List.findSome?_append, ← fault_of_check_username] at refused
  unfold insert
  -- one case for each reason, in the order in which they are asked for
  cases checked : checkUsername username with
  | error reason =>
      obtain rfl : reason = failure := by simpa [checked, faultOf] using refused
      have same : backing = store.backing :=
        Backing.after_refusal_of_other (username_fault_not_storage checked)
      exact ⟨.inl same, store.journal, by rw [same]⟩
  | ok =>
      by_cases full : store.capacity ≤ store.rows.length
      · obtain rfl : Failure.tableFull store.capacity = failure := by
          simpa [checked, faultOf, full] using refused
        simp only [full, if_true]
        exact ⟨.inl rfl, _, rfl⟩
      · by_cases taken : username ∈ store.usernames
        · obtain rfl : Failure.accountExists = failure := by
            simpa [checked, faultOf, full, taken] using refused
          simp only [full, has_username_iff.mpr taken, if_true, if_false]
          exact ⟨.inl rfl, store.journal, rfl⟩
        · have unknown : hasUsername store.rows username = false := by
            rw [← Bool.not_eq_true, has_username_iff]
            exact taken
          cases faulty : store.backing.appendFault with
          | none => simp [checked, faultOf, full, taken, faulty] at refused
          | some fault =>
              obtain rfl : Failure.storage fault = failure := by
                simpa [checked, faultOf, full, taken, faulty] using refused
              have written : store.backing.append
                  (Account.new username salt passwordHash iterations).encode =
                    (.error fault, backing) :=
                Prod.ext (by rw [Backing.append_of_fault _ faulty]) rfl
              simp only [full, unknown, written]
              exact ⟨.inr ⟨by simp [faulty], rfl⟩, _, rfl⟩

theorem insert_accepted (accepted : (store.refusals username).findSome? id = none) :
    ∃ journal, store.insert username salt passwordHash iterations =
      (.ok (), store.adding (Account.new username salt passwordHash iterations) journal) := by
  obtain ⟨checked, room, fresh, working⟩ := refusals_eq_none_iff.mp accepted
  have free : ¬ store.capacity ≤ store.rows.length := Nat.not_le_of_lt room
  have unknown : hasUsername store.rows username = false := by
    rw [← Bool.not_eq_true, has_username_iff]
    exact fresh
  simp only [insert, checked, free, unknown, Backing.append_of_working _ working]
  exact ⟨_, rfl⟩

theorem fault_of_insert :
    faultOf (store.insert username salt passwordHash iterations).1 =
      (store.refusals username).findSome? id := by
  cases reason : (store.refusals username).findSome? id with
  | none =>
      obtain ⟨journal, inserted⟩ := store.insert_accepted salt passwordHash iterations reason
      rw [inserted]
      rfl
  | some failure =>
      obtain ⟨_, journal, refused⟩ := store.insert_refused salt passwordHash iterations reason
      rw [refused]
      rfl

end

/-- Where only the append failed, nothing else stands against the account. -/
theorem retried_refusals {store retried : Store} {username : String} {fault : Fault}
    (refused : (store.refusals username).findSome? id = some (.storage fault))
    (rows : retried.rows = store.rows) (capacity : retried.capacity = store.capacity)
    (working : retried.backing.appendFault = none) :
    (retried.refusals username).findSome? id = none := by
  have named : username ≠ "" := by
    rintro rfl
    simp [refusals, usernameFaults] at refused
  have fits : ¬ maxUsernameBytes < username.utf8ByteSize := by
    intro long
    simp [refusals, usernameFaults, named, long] at refused
  have visible : username.toList.any isControl = false := by
    rw [← Bool.not_eq_true]
    intro control
    simp [refusals, usernameFaults, named, fits, control] at refused
  have free : ¬ store.capacity ≤ store.rows.length := by
    intro full
    simp [refusals, usernameFaults, named, fits, visible, full] at refused
  have fresh : username ∉ store.usernames := by
    intro taken
    simp [refusals, usernameFaults, named, fits, visible, free, taken] at refused
  have checked : checkUsername username = .ok () :=
    check_username_ok.mpr ⟨named, Nat.le_of_not_lt fits, visible⟩
  have room : retried.rows.length < retried.capacity := by
    rw [rows, capacity]
    exact Nat.lt_of_not_le free
  have names : retried.usernames = store.usernames := congrArg (List.map Account.username) rows
  exact refusals_eq_none_iff.mpr ⟨checked, room, names ▸ fresh, working⟩

/-- The first reason against an account is the failure of its insertion, and then no row is added.
Nothing is added to the backing either, unless it was the append that failed and a failing one
leaves bytes behind; these are a front part of the record. Was it the append, the same insertion
succeeds as soon as appends work again, and where they are all or none it does then all that it
would have done at first. Without a reason the account is behind the rows and its record, which
reads as the account, behind the backing. -/
theorem insertion_is_all_or_nothing (store : Store) (username : String) (salt : Salt)
    (passwordHash : PasswordHash) (iterations : UInt32) :
    let account := Account.new username salt passwordHash iterations
    let outcome := (store.insert username salt passwordHash iterations).1
    let after := (store.insert username salt passwordHash iterations).2
    faultOf outcome = (store.refusals username).findSome? id ∧
      (∀ failure, outcome = .error failure → ∃ journal backing,
        after = { store with journal, backing } ∧
          ((∀ fault, failure ≠ .storage fault) → backing = store.backing) ∧
          (backing.content = store.backing.content ∨
            ∃ count, backing.content = some (store.backing.bytes ++ account.encode.take count)) ∧
          (store.backing.AllOrNone → store.backing.Spared backing)) ∧
      (∀ fault, outcome = .error (.storage fault) →
        let retried := after.mended.insert username salt passwordHash iterations
        (∃ journal, retried = (.ok (), after.mended.adding account journal)) ∧
          (store.backing.AllOrNone →
            ∃ journal, retried = (.ok (), store.mended.adding account journal))) ∧
      (outcome = .ok () →
        (∃ journal, after = store.adding account journal) ∧
          account.encode.length = recordWidth ∧
          Account.decode? account.encode = some account) := by
  intro account outcome after
  have decided : faultOf outcome = (store.refusals username).findSome? id :=
    store.fault_of_insert salt passwordHash iterations
  have refused (failure : Failure) (failed : outcome = .error failure) :
      let backing := store.backing.afterRefusal account.encode failure
      store.backing.Left account.encode backing ∧
        ∃ journal, after = { store with journal, backing } := by
    rw [failed] at decided
    obtain ⟨left, journal, ended⟩ :=
      store.insert_refused salt passwordHash iterations decided.symm
    exact ⟨left, journal, congrArg Prod.snd ended⟩
  refine ⟨decided, ?_, ?_, ?_⟩
  · intro failure failed
    obtain ⟨left, journal, rest⟩ := refused failure failed
    obtain ⟨content, tried, same, _, front⟩ := left.eq_with
    refine ⟨journal, _, rest, Backing.after_refusal_of_other, ?_, left.spared⟩
    rw [same]
    exact front
  · intro fault failed
    obtain ⟨left, journal, rest⟩ := refused _ failed
    obtain ⟨content, tried, same, kept, _⟩ := left.eq_with
    rw [failed] at decided
    have rows : after.rows = store.rows := by rw [rest]
    have capacity : after.capacity = store.capacity := by rw [rest]
    obtain ⟨later, retried⟩ := after.mended.insert_accepted salt passwordHash iterations
      (retried_refusals decided.symm rows capacity rfl)
    refine ⟨⟨later, retried⟩, fun allOrNone => ⟨later, ?_⟩⟩
    rw [retried, show after = _ from rest, same, kept allOrNone]
    rfl
  · intro succeeded
    rw [succeeded] at decided
    obtain ⟨journal, inserted⟩ :=
      store.insert_accepted salt passwordHash iterations decided.symm
    have checked := (refusals_eq_none_iff.mp decided.symm).1
    exact ⟨⟨journal, congrArg Prod.snd inserted⟩, encode_length account,
      Account.decode_encode (Account.storable_new salt passwordHash iterations checked)⟩

/-- Where a failing append leaves a hundred bytes, the second attempt succeeds behind them, and the
table cannot be read again. -/
example :
    let backing : Backing :=
      { Backing.sound "users" none with
        appendFault := some (.other "No space left"), leftover := some 100 }
    let salt : Salt := Vector.replicate 16 1
    let hash : PasswordHash := Vector.replicate 32 2
    let first := (load backing 1).insert "alice" salt hash 1000
    let mended := { first.2 with backing := { first.2.backing with appendFault := none } }
    let second := mended.insert "alice" salt hash 1000
    first.1 = .error (.storage (.other "No space left")) ∧ second.1 = .ok () ∧
      (load second.2.backing 1).status = .corrupt 249 := by
  decide +kernel

/-- A table with room for one account, while appends fail. -/
def stalledTable : Store :=
  load { Backing.sound "users" none with appendFault := some .notDirectory } 1

theorem alice_is_added_at_the_second_attempt :
    let salt : Salt := Vector.replicate 16 1
    let hash : PasswordHash := Vector.replicate 32 2
    let alice := Account.new "alice" salt hash 1000
    let first := stalledTable.insert "alice" salt hash 1000
    let second := first.2.mended.insert "alice" salt hash 1000
    let third := second.2.insert "bob" salt hash 1000
    (first.1 = .error (.storage .notDirectory) ∧ first.2.rows = [] ∧
        first.2.backing.content = none) ∧
      (second.1 = .ok () ∧ second.2.rows = [alice] ∧
        second.2.backing.content = some alice.encode ∧
        Account.decode? alice.encode = some alice) ∧
      third.1 = .error (.tableFull 1) ∧ third.2.rows = [alice] := by
  intro salt hash alice first second third
  have failed : first.1 = .error (.storage .notDirectory) := by decide +kernel
  have full : third.1 = .error (.tableFull 1) := by decide +kernel
  have allOrNone : stalledTable.backing.AllOrNone := rfl
  obtain ⟨_, spared, retried, _⟩ :=
    insertion_is_all_or_nothing stalledTable "alice" salt hash 1000
  obtain ⟨_, _, _, decoded⟩ :=
    insertion_is_all_or_nothing first.2.mended "alice" salt hash 1000
  obtain ⟨_, refused, _, _⟩ := insertion_is_all_or_nothing second.2 "bob" salt hash 1000
  obtain ⟨_, backing, left, _, _, kept⟩ := spared _ failed
  obtain ⟨_, added⟩ := (retried _ failed).2 allOrNone
  obtain ⟨_, _, unchanged, _⟩ := refused _ full
  have succeeded : second.1 = .ok () := congrArg Prod.fst added
  have rows : second.2.rows = [alice] := congrArg (fun result => result.2.rows) added
  have content : first.2.backing.content = none := by
    rw [show first.2 = _ from left]
    exact (kept allOrNone).content_eq
  refine ⟨⟨failed, congrArg Store.rows left, content⟩,
    ⟨succeeded, rows, congrArg (fun result => result.2.backing.content) added,
      (decoded succeeded).2.2⟩, full, ?_⟩
  exact (congrArg Store.rows unchanged).trans rows

end Store

end Accounts
