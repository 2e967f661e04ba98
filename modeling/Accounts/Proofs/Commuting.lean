import Accounts.Proofs.Reopening

/-!
# Changes to different accounts

A change is an insertion or a new session, and either is about the account of one name.
What it comes to depends on that name and on the room that is left, so changes to
different accounts do not notice each other as long as the room lasts for both. The rows
and the records come in another order then, which no lookup by name can tell. Likewise
the accounts of a batch are the same in whatever order they are inserted, also when
their records are read again among those of others.
-/

namespace Accounts.Store

inductive Change where
  | insert (username : String) (salt : Salt) (passwordHash : PasswordHash) (iterations : UInt32)
  | setSession (username session : String)
  deriving DecidableEq, Repr

inductive Verdict where
  | inserted (outcome : Except Failure Unit)
  | sessionSet (taken : Bool)
  deriving DecidableEq, Repr

def Verdict.accepted : Verdict → Bool
  | .inserted (.ok ()) => true
  | .inserted (.error _) => false
  | .sessionSet taken => taken

/-- How many bytes came to the backing with an answer, if it was written to at all: those of a
record, or what a failing append leaves of one. -/
def Verdict.written (leftover : Option Nat) : Verdict → Option Nat
  | .inserted (.ok ()) => some recordWidth
  | .inserted (.error (.storage _)) => leftover.map fun count => min count recordWidth
  | _ => none

/-- The size of a content to which so much was written. -/
def sizeAfter (size : Option Nat) : (written : Option Nat) → Option Nat
  | none => size
  | some count => some (size.getD 0 + count)

theorem size_after_comm (size first second : Option Nat) :
    sizeAfter (sizeAfter size first) second = sizeAfter (sizeAfter size second) first := by
  cases first with
  | none => rfl
  | some count =>
      cases second with
      | none => rfl
      | some other => simp [sizeAfter, Nat.add_right_comm]

namespace Change

def username : Change → String
  | .insert username .. => username
  | .setSession username _ => username

def action : Change → Action
  | .insert username salt passwordHash iterations =>
      .insert username salt passwordHash iterations
  | .setSession username session => .setSession username session

/-- The accounts that the change adds where it is accepted. -/
def accounts : Change → List Account
  | .insert username salt passwordHash iterations =>
      [.new username salt passwordHash iterations]
  | .setSession .. => []

def isInsert : Change → Bool
  | .insert .. => true
  | .setSession .. => false

/-- What the change makes of the rows where it is accepted. -/
def applyTo : Change → List Account → List Account
  | .insert username salt passwordHash iterations, rows =>
      rows ++ [.new username salt passwordHash iterations]
  | .setSession username session, rows => replaceSession username session rows

/-- What it makes of the row of its own name. -/
def seenAs : Change → Option Account → Option Account
  | .insert username salt passwordHash iterations, row =>
      row <|> some (.new username salt passwordHash iterations)
  | .setSession _ session, row => row.map fun row => { row with session }

end Change

def answer (store : Store) : Change → Verdict
  | .insert username salt passwordHash iterations =>
      .inserted (store.insert username salt passwordHash iterations).1
  | .setSession username session => .sessionSet (store.setSession username session).1

/-- The answers to the changes of a run, the first one first. -/
def answers (store : Store) : List Change → List Verdict
  | [] => []
  | change :: changes => store.answer change :: answers (store.perform change.action) changes

structure Effect (store : Store) (change : Change) (after : Store) : Prop where
  capacity_eq : after.capacity = store.capacity
  appendFault_eq : after.backing.appendFault = store.backing.appendFault
  leftover_eq : after.backing.leftover = store.backing.leftover
  rows_eq : after.rows =
    if (store.answer change).accepted then change.applyTo store.rows else store.rows
  size_eq : after.backing.content.map List.length =
    sizeAfter (store.backing.content.map List.length)
      ((store.answer change).written store.backing.leftover)

theorem size_of_failed_append {backing : Backing} {fault : Fault} (bytes : Bytes)
    (faulty : backing.appendFault = some fault) :
    (backing.append bytes).2.content.map List.length =
      sizeAfter (backing.content.map List.length)
        (backing.leftover.map fun count => min count bytes.length) := by
  rw [Backing.append_of_fault bytes faulty]
  cases torn : backing.leftover with
  | none => rfl
  | some count =>
      cases held : backing.content with
      | none => simp [Backing.withBytes, sizeAfter, held]
      | some content => simp [Backing.withBytes, sizeAfter, held]

theorem perform_effect (store : Store) (change : Change) :
    Effect store change (store.perform change.action) := by
  cases change with
  | insert username salt passwordHash iterations =>
      simp only [Change.action, perform]
      cases reason : (store.refusals username).findSome? id with
      | some failure =>
          obtain ⟨left, journal, refused⟩ :=
            store.insert_refused salt passwordHash iterations reason
          obtain ⟨content, tried, same, _⟩ := left.eq_with
          have answered : store.answer (.insert username salt passwordHash iterations) =
              .inserted (.error failure) := by rw [answer, refused]
          rw [refused]
          refine ⟨rfl, by rw [same], by rw [same], by rw [answered]; rfl, ?_⟩
          rw [answered]
          cases failure with
          | storage fault =>
              have size := size_of_failed_append
                (Account.new username salt passwordHash iterations).encode
                (append_fault_of_refusal reason)
              rwa [encode_length] at size
          | _ => rfl
      | none =>
          obtain ⟨journal, inserted⟩ := store.insert_accepted salt passwordHash iterations reason
          have answered : store.answer (.insert username salt passwordHash iterations) =
              .inserted (.ok ()) := by rw [answer, inserted]
          rw [inserted]
          refine ⟨rfl, rfl, rfl, by rw [answered]; rfl, ?_⟩
          rw [answered]
          cases held : store.backing.content with
          | none => simp [adding, Backing.bytes, held, Verdict.written, sizeAfter, encode_length]
          | some content =>
              simp [adding, Backing.bytes, held, Verdict.written, sizeAfter, encode_length]
  | setSession username session =>
      have outcome := store.session_change username session
      simp only [Change.action, perform]
      generalize answered : store.setSession username session = result at outcome ⊢
      cases outcome with
      | refused journal reason =>
          constructor <;> simp [answer, answered, Verdict.accepted, Verdict.written, sizeAfter]
      | taken fits member =>
          constructor <;> simp [answer, answered, Verdict.accepted, Verdict.written, sizeAfter,
            Change.applyTo]

section

variable {change : Change} {rows : List Account} {name : String}

theorem apply_to_usernames :
    (change.applyTo rows).map Account.username =
      rows.map Account.username ++ change.accounts.map Account.username := by
  cases change with
  | insert username salt passwordHash iterations => exact List.map_append
  | setSession username session =>
      have same := usernames_of_credentials (replace_session_credentials username session rows)
      simp [Change.applyTo, Change.accounts, same]

theorem mem_accounts_usernames (member : name ∈ change.accounts.map Account.username) :
    name = change.username := by
  cases change with
  | insert username salt passwordHash iterations => exact List.mem_singleton.mp member
  | setSession username session => simp [Change.accounts] at member

theorem find_apply_to_other (other : name ≠ change.username) :
    (change.applyTo rows).find? (fun row => row.username == name) =
      rows.find? fun row => row.username == name := by
  cases change with
  | insert username salt passwordHash iterations =>
      have unlike : (Account.new username salt passwordHash iterations).username ≠ name :=
        Ne.symm other
      simp [Change.applyTo, List.find?_append, unlike]
  | setSession username session =>
      rw [Change.applyTo, find_replace_session]
      simp [show name ≠ username from other]

theorem find_apply_to_own :
    (change.applyTo rows).find? (fun row => row.username == change.username) =
      change.seenAs (rows.find? fun row => row.username == change.username) := by
  cases change with
  | insert username salt passwordHash iterations =>
      simp [Change.applyTo, Change.username, Change.seenAs, List.find?_append, Account.new]
  | setSession username session =>
      simp [Change.applyTo, Change.username, Change.seenAs, find_replace_session]

end

namespace Effect

variable {store after : Store} {change : Change} {name : String}

theorem mem_usernames (effect : Effect store change after) (other : name ≠ change.username) :
    name ∈ after.usernames ↔ name ∈ store.usernames := by
  rw [usernames, usernames, effect.rows_eq]
  split
  · rw [apply_to_usernames, List.mem_append]
    constructor
    · rintro (before | added)
      · exact before
      · exact absurd (mem_accounts_usernames added) other
    · exact .inl
  · rfl

theorem length_eq (effect : Effect store change after) :
    after.rows.length =
      store.rows.length + if (store.answer change).accepted then change.accounts.length else 0 := by
  rw [effect.rows_eq]
  split
  · have names : (change.applyTo store.rows).map Account.username = _ := apply_to_usernames
    simpa using congrArg List.length names
  · rfl

theorem find_eq (effect : Effect store change after) (name : String) :
    after.rows.find? (fun row => row.username == name) =
      if (store.answer change).accepted = true ∧ name = change.username then
        change.seenAs (store.rows.find? fun row => row.username == name)
      else store.rows.find? fun row => row.username == name := by
  rw [effect.rows_eq]
  by_cases accepted : (store.answer change).accepted = true
  · by_cases own : name = change.username
    · subst own
      simp [accepted, find_apply_to_own]
    · simp [accepted, own, find_apply_to_other own]
  · simp [accepted]

end Effect

theorem fault_of_injective {left right : Except Failure Unit}
    (same : faultOf left = faultOf right) : left = right := by
  cases left <;> cases right <;> simp_all [faultOf]

/-- The answer to a change depends on what it asks of the table, and on nothing else. -/
theorem answer_congr {store other : Store} {change : Change}
    (capacity : other.capacity = store.capacity)
    (fault : other.backing.appendFault = store.backing.appendFault)
    (known : change.username ∈ other.usernames ↔ change.username ∈ store.usernames)
    (room : change.isInsert = true →
      (store.capacity ≤ other.rows.length ↔ store.capacity ≤ store.rows.length)) :
    other.answer change = store.answer change := by
  cases change with
  | insert username salt passwordHash iterations =>
      have refusals : other.refusals username = store.refusals username := by
        simp only [refusals, capacity, fault, room rfl, show username ∈ other.usernames ↔
          username ∈ store.usernames from known]
      refine congrArg Verdict.inserted (fault_of_injective ?_)
      rw [fault_of_insert, fault_of_insert, refusals]
  | setSession username session =>
      have listed : hasUsername other.rows username = hasUsername store.rows username := by
        rw [Bool.eq_iff_iff, has_username_iff, has_username_iff]
        exact known
      simp only [answer, setSession, listed]
      split
      · rfl
      · split
        · rfl
        · rfl

/-- A change to another account leaves the answer as it is, if there is room for both. -/
theorem Effect.answer_other {store after : Store} {first second : Change}
    (effect : Effect store first after) (different : first.username ≠ second.username)
    (room : first.isInsert = true → second.isInsert = true →
      store.rows.length + 2 ≤ store.capacity) : after.answer second = store.answer second := by
  refine answer_congr effect.capacity_eq effect.appendFault_eq
    (effect.mem_usernames (Ne.symm different)) ?_
  intro inserting
  have length := effect.length_eq
  cases first with
  | insert username salt passwordHash iterations =>
      have free := room rfl inserting
      have one : (Change.insert username salt passwordHash iterations).accounts.length = 1 := rfl
      split at length <;> omega
  | setSession username session =>
      have none : (Change.setSession username session).accounts.length = 0 := rfl
      rw [none, ite_self, Nat.add_zero] at length
      rw [length]

/-- Two changes to different accounts, done in either order, with the same answers. -/
theorem Effect.agree {store one other left right : Store} {first second : Change}
    (different : first.username ≠ second.username)
    (firstDone : Effect store first one) (secondDone : Effect store second other)
    (secondThen : Effect one second left) (firstThen : Effect other first right)
    (sameSecond : one.answer second = store.answer second)
    (sameFirst : other.answer first = store.answer first) :
    (∀ name, left.findByUsername name = right.findByUsername name) ∧
      left.rows.length = right.rows.length ∧
      left.backing.content.map List.length = right.backing.content.map List.length := by
  refine ⟨?_, ?_, ?_⟩
  · intro name
    simp only [findByUsername, secondThen.find_eq, firstThen.find_eq, firstDone.find_eq,
      secondDone.find_eq, sameFirst, sameSecond]
    by_cases own : name = first.username
    · simp [own, different]
    · simp [own]
  · rw [secondThen.length_eq, firstThen.length_eq, firstDone.length_eq, secondDone.length_eq,
      sameFirst, sameSecond]
    omega
  · rw [secondThen.size_eq, firstThen.size_eq, firstDone.size_eq, secondDone.size_eq,
      sameFirst, sameSecond, firstDone.leftover_eq, secondDone.leftover_eq]
    exact size_after_comm _ _ _

/-- Nothing is in the way of the insertions of a batch, in whatever order they are made. -/
structure Admits (store : Store) (batch : List Change) : Prop where
  inserts : ∀ change ∈ batch, change.isInsert = true
  checked : ∀ change ∈ batch, checkUsername change.username = .ok ()
  fresh : ∀ change ∈ batch, change.username ∉ store.usernames
  distinct : (batch.map Change.username).Nodup
  room : batch.length ≤ store.capacity - store.rows.length
  working : batch ≠ [] → store.backing.appendFault = none

theorem Admits.perm {store : Store} {batch permuted : List Change} (admits : store.Admits batch)
    (perm : batch.Perm permuted) : store.Admits permuted where
  inserts change member := admits.inserts change (perm.mem_iff.mpr member)
  checked change member := admits.checked change (perm.mem_iff.mpr member)
  fresh change member := admits.fresh change (perm.mem_iff.mpr member)
  distinct := (perm.map _).nodup_iff.mp admits.distinct
  room := perm.length_eq ▸ admits.room
  working := by
    intro nonempty
    apply admits.working
    rintro rfl
    exact nonempty perm.nil_eq.symm

theorem answer_inserted_iff {store : Store} {change : Change} :
    store.answer change = .inserted (.ok ()) ↔
      change.isInsert = true ∧ checkUsername change.username = .ok () ∧
        store.rows.length < store.capacity ∧ change.username ∉ store.usernames ∧
        store.backing.appendFault = none := by
  cases change with
  | insert username salt passwordHash iterations =>
      have only : (∃ value, (store.insert username salt passwordHash iterations).1 = .ok value) ↔
          (store.insert username salt passwordHash iterations).1 = .ok () := Unique.exists_iff
      rw [answer, Verdict.inserted.injEq, ← only, ← fault_of_eq_none, fault_of_insert,
        refusals_eq_none_iff]
      exact ⟨fun clear => ⟨rfl, clear⟩, And.right⟩
  | setSession username session => simp [answer, Change.isInsert]

namespace Change

variable {change : Change}

theorem accounts_usernames (inserts : change.isInsert = true) :
    change.accounts.map Account.username = [change.username] := by
  cases change with
  | insert username salt passwordHash iterations => rfl
  | setSession username session => exact absurd inserts Bool.false_ne_true

theorem apply_of_insert (inserts : change.isInsert = true) (rows : List Account) :
    change.applyTo rows = rows ++ change.accounts := by
  cases change with
  | insert username salt passwordHash iterations => rfl
  | setSession username session => exact absurd inserts Bool.false_ne_true

end Change

section

variable {store : Store} {change : Change} {batch : List Change}

theorem inserted_rows (accepted : store.answer change = .inserted (.ok ())) :
    (store.perform change.action).rows = store.rows ++ change.accounts := by
  have rows := (store.perform_effect change).rows_eq
  rwa [accepted, Verdict.accepted, if_pos rfl,
    Change.apply_of_insert (answer_inserted_iff.mp accepted).1] at rows

theorem inserted_gained (accepted : store.answer change = .inserted (.ok ())) :
    store.backing.Gained (store.perform change.action).backing change.accounts := by
  have clear := answer_inserted_iff.mp accepted
  cases change with
  | insert username salt passwordHash iterations =>
      have accepted : (store.refusals username).findSome? id = none :=
        refusals_eq_none_iff.mpr clear.2
      obtain ⟨journal, inserted⟩ := store.insert_accepted salt passwordHash iterations accepted
      simp only [Change.action, perform, inserted]
      exact .record rfl rfl
  | setSession username session => exact absurd clear.1 Bool.false_ne_true

theorem inserted_accepts (accepted : store.answer change = .inserted (.ok ())) :
    store.accepts change.action = change.accounts := by
  cases change with
  | insert username salt passwordHash iterations =>
      simp only [answer, Verdict.inserted.injEq] at accepted
      simp only [Change.action, accepts, accepted, Change.accounts]
  | setSession username session => simp [answer] at accepted

/-- An accepted insertion leaves a table that admits the rest of the batch. -/
theorem admits_cons (accepted : store.answer change = .inserted (.ok ())) :
    store.Admits (change :: batch) ↔ (store.perform change.action).Admits batch := by
  obtain ⟨inserts, checked, room, fresh, working⟩ := answer_inserted_iff.mp accepted
  have effect := store.perform_effect change
  have names : (store.perform change.action).usernames = store.usernames ++ [change.username] := by
    rw [usernames, inserted_rows accepted, List.map_append, Change.accounts_usernames inserts]
    rfl
  have length : (store.perform change.action).rows.length = store.rows.length + 1 := by
    simpa [usernames] using congrArg List.length names
  constructor
  · intro admits
    have distinct := List.nodup_cons.mp admits.distinct
    constructor
    · exact fun other member => admits.inserts other (List.mem_cons_of_mem _ member)
    · exact fun other member => admits.checked other (List.mem_cons_of_mem _ member)
    · intro other member
      rw [names, List.mem_append, List.mem_singleton, not_or]
      refine ⟨admits.fresh other (List.mem_cons_of_mem _ member), ?_⟩
      intro same
      exact distinct.1 (same ▸ List.mem_map_of_mem member)
    · exact distinct.2
    · have enough := admits.room
      rw [List.length_cons] at enough
      rw [effect.capacity_eq, length]
      omega
    · intro _
      rw [effect.appendFault_eq, working]
  · intro admits
    have apart : ∀ other ∈ batch, other.username ∉ store.usernames ∧
        other.username ≠ change.username := by
      intro other member
      have fresh := admits.fresh other member
      rwa [names, List.mem_append, List.mem_singleton, not_or] at fresh
    constructor
    · exact List.forall_mem_cons.mpr ⟨inserts, admits.inserts⟩
    · exact List.forall_mem_cons.mpr ⟨checked, admits.checked⟩
    · exact List.forall_mem_cons.mpr ⟨fresh, fun other member => (apart other member).1⟩
    · refine List.nodup_cons.mpr ⟨?_, admits.distinct⟩
      intro member
      obtain ⟨other, place, same⟩ := List.mem_map.mp member
      exact (apart other place).2 same
    · have enough := admits.room
      rw [effect.capacity_eq, length] at enough
      rw [List.length_cons]
      omega
    · exact fun _ => working

theorem Admits.head (admits : store.Admits (change :: batch)) :
    store.answer change = .inserted (.ok ()) := by
  have enough := admits.room
  rw [List.length_cons] at enough
  exact answer_inserted_iff.mpr ⟨admits.inserts change List.mem_cons_self,
    admits.checked change List.mem_cons_self, by omega, admits.fresh change List.mem_cons_self,
    admits.working (List.cons_ne_nil change batch)⟩

theorem Admits.nil : store.Admits [] where
  inserts := by simp
  checked := by simp
  fresh := by simp
  distinct := List.nodup_nil
  room := Nat.zero_le _
  working nonempty := absurd rfl nonempty

/-- The insertions of a batch all succeed just if the table admits the batch. -/
theorem all_inserted_iff :
    (∀ verdict ∈ store.answers batch, verdict = .inserted (.ok ())) ↔ store.Admits batch := by
  induction batch generalizing store with
  | nil => exact iff_of_true (by simp [answers]) .nil
  | cons change batch ih =>
      rw [answers, List.forall_mem_cons, ih]
      constructor
      · rintro ⟨accepted, rest⟩
        exact (admits_cons accepted).mpr rest
      · intro admits
        exact ⟨admits.head, (admits_cons admits.head).mp admits⟩

theorem Admits.run_rows (admits : store.Admits batch) :
    (store.run (batch.map Change.action)).rows = store.rows ++ batch.flatMap Change.accounts := by
  induction batch generalizing store with
  | nil => exact (List.append_nil _).symm
  | cons change batch ih =>
      have rest := ih ((admits_cons admits.head).mp admits)
      rw [inserted_rows admits.head, List.append_assoc] at rest
      exact rest

theorem Admits.run_accepted (admits : store.Admits batch) :
    store.accepted (batch.map Change.action) = batch.flatMap Change.accounts := by
  induction batch generalizing store with
  | nil => rfl
  | cons change batch ih =>
      rw [List.map_cons, accepted, ih ((admits_cons admits.head).mp admits),
        inserted_accepts admits.head, List.flatMap_cons]

theorem Admits.accounts_distinct (admits : store.Admits batch) :
    ((batch.flatMap Change.accounts).map Account.username).Nodup := by
  have names : (batch.flatMap Change.accounts).map Account.username =
      batch.map Change.username := by
    rw [List.map_flatMap, ← List.flatMap_singleton' (batch.map Change.username), List.flatMap_map]
    apply List.flatMap_congr
    intro change member
    exact Change.accounts_usernames (admits.inserts change member)
  rw [names]
  exact admits.distinct

end

/-- Nothing but records of the accepted accounts comes to the backing, as no append fails. -/
theorem Admits.run_gained {store : Store} {batch : List Change} (admits : store.Admits batch) :
    store.backing.Gained (store.run (batch.map Change.action)).backing
      (batch.flatMap Change.accounts) := by
  induction batch generalizing store with
  | nil => exact .nothing rfl rfl
  | cons change batch ih =>
      have rest := ih ((admits_cons admits.head).mp admits)
      exact (inserted_gained admits.head).trans rest

section

variable {before after other : Backing} {added permuted : List Account} {capacity : Nat}

/-- What a reopened table has of the accounts that were added since. -/
theorem reload_rows (gained : before.Gained after added) (whole : before.Whole)
    (storable : ∀ account ∈ added, account.Storable)
    (distinct : (added.map Account.username).Nodup)
    (enough : after.records.length ≤ capacity) :
    (load after capacity).rows =
      keepAll [] before.records ++ added.filter fun account =>
        !hasUsername (keepAll [] before.records) account.username := by
  rw [(load_opened capacity (gained.whole whole)).rows_eq, List.take_of_length_le enough,
    gained.records_eq whole, keep_all_append, keep_all_encoded_new _ _ storable distinct]

theorem reload_perm (gained : before.Gained after added) (otherwise : before.Gained other permuted)
    (perm : added.Perm permuted) (storable : ∀ account ∈ added, account.Storable)
    (distinct : (added.map Account.username).Nodup)
    (enough : after.records.length ≤ capacity) :
    (load after capacity).rows.Perm (load other capacity).rows := by
  by_cases whole : before.Whole
  · have otherEnough : other.records.length ≤ capacity := by
      rw [gained.records_eq whole] at enough
      rw [otherwise.records_eq whole]
      simpa [perm.length_eq] using enough
    have otherStorable : ∀ account ∈ permuted, account.Storable :=
      fun account member => storable account (perm.mem_iff.mpr member)
    rw [reload_rows gained whole storable distinct enough, reload_rows otherwise whole
      otherStorable ((perm.map _).nodup_iff.mp distinct) otherEnough]
    exact (perm.filter _).append_left _
  · rw [(load_of_not_whole (mt gained.whole_iff.mp whole)).1,
      (load_of_not_whole (mt otherwise.whole_iff.mp whole)).1]

end

/-- Two changes to different accounts have the same answers in either order, as long as there is
room for all that they insert, and no lookup by name can tell which of them came first. A batch of
insertions that all succeed does so in any order, and its accounts are the same ones, in the table
and in every table that is opened on its records with room for all of them. -/
theorem changes_to_different_accounts_commute (store : Store) :
    (∀ first second : Change, first.username ≠ second.username →
      (first.isInsert = true → second.isInsert = true → store.rows.length + 2 ≤ store.capacity) →
      let one := store.perform first.action
      let other := store.perform second.action
      let left := one.perform second.action
      let right := other.perform first.action
      one.answer second = store.answer second ∧ other.answer first = store.answer first ∧
        (∀ name, left.findByUsername name = right.findByUsername name) ∧
        left.rows.length = right.rows.length ∧
        left.backing.content.map List.length = right.backing.content.map List.length) ∧
      ∀ batch permuted : List Change, batch.Perm permuted →
        (∀ verdict ∈ store.answers batch, verdict = .inserted (.ok ())) →
        let live := store.run (batch.map Change.action)
        let other := store.run (permuted.map Change.action)
        (∀ verdict ∈ store.answers permuted, verdict = .inserted (.ok ())) ∧
          live.rows.Perm other.rows ∧
          ∀ capacity, live.backing.records.length ≤ capacity →
            (load live.backing capacity).rows.Perm (load other.backing capacity).rows := by
  constructor
  · intro first second different room one other left right
    have firstDone := store.perform_effect first
    have secondDone := store.perform_effect second
    have sameSecond := firstDone.answer_other different room
    have sameFirst := secondDone.answer_other (Ne.symm different)
      (fun inserting also => room also inserting)
    exact ⟨sameSecond, sameFirst, Effect.agree different firstDone secondDone
      (one.perform_effect second) (other.perform_effect first) sameSecond sameFirst⟩
  · intro batch permuted perm succeeded live other
    have admits := all_inserted_iff.mp succeeded
    have admitsOther := admits.perm perm
    have accounts := perm.flatMap_right Change.accounts
    have grown := store.grown_run (batch.map Change.action)
    rw [admits.run_accepted] at grown
    have storable : ∀ account ∈ batch.flatMap Change.accounts, account.Storable :=
      fun account member => (grown.enrolled account member).storable
    refine ⟨all_inserted_iff.mpr admitsOther, ?_, ?_⟩
    · simp only [live, other, admits.run_rows, admitsOther.run_rows]
      exact accounts.append_left store.rows
    · intro capacity enough
      exact reload_perm admits.run_gained admitsOther.run_gained accounts storable
        admits.accounts_distinct enough

def bobAdded : Change := .insert "bob" (Vector.replicate 16 3) (Vector.replicate 32 4) 2000

def carolAdded : Change := .insert "carol" (Vector.replicate 16 5) (Vector.replicate 32 6) 3000

/-- The rows differ, but not as a set. -/
theorem bob_and_carol_change_places :
    let store := load mixedBacking 3
    let live := store.run [bobAdded.action, carolAdded.action]
    let other := store.run [carolAdded.action, bobAdded.action]
    bobAdded.username ≠ carolAdded.username ∧ store.rows.length + 2 ≤ store.capacity ∧
      (store.perform bobAdded.action).answer carolAdded = .inserted (.ok ()) ∧
      live.findByUsername "bob" = other.findByUsername "bob" ∧
      live.rows ≠ other.rows ∧ live.rows.Perm other.rows ∧
      live.backing.records.length ≤ 4 ∧
      (load live.backing 4).rows.Perm (load other.backing 4).rows := by
  intro store live other
  have different : bobAdded.username ≠ carolAdded.username := by decide
  have room : store.rows.length + 2 ≤ store.capacity := by decide +kernel
  have succeeded : ∀ verdict ∈ store.answers [bobAdded, carolAdded],
      verdict = .inserted (.ok ()) := by decide +kernel
  have accepted : store.answer carolAdded = .inserted (.ok ()) := by decide +kernel
  have moved : live.rows ≠ other.rows := by decide +kernel
  have enough : live.backing.records.length ≤ 4 := by decide +kernel
  obtain ⟨pairs, batches⟩ := changes_to_different_accounts_commute store
  obtain ⟨sameCarol, _, finds, _, _⟩ := pairs bobAdded carolAdded different fun _ _ => room
  obtain ⟨_, rows, reloads⟩ := batches [bobAdded, carolAdded] [carolAdded, bobAdded]
    (.swap _ _ _) succeeded
  exact ⟨different, room, sameCarol.trans accepted, finds "bob", moved, rows, enough,
    reloads 4 enough⟩

end Accounts.Store
