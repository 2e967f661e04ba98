import Accounts.Proofs.Invariant
import Accounts.Proofs.Calls

/-!
# Rows without a name

The empty name is never accepted for a new account, and a lookup by it finds
nothing. A record of the backing may carry it all the same: the replay takes every
record with a readable name, and a record that begins with a zero byte reads as one
with the empty name. Such a row is listed and cannot be found, but a cookie with
the session of its record stands for it. No call ever gives it a new session.
-/

namespace Accounts

namespace Account

theorem unpad_field_eq_empty {field : Bytes} :
    unpadField field = some "" ↔ field.takeWhile (· != 0) = [] := by
  constructor
  · intro read
    exact (utf8_of_of_utf8 read).symm
  · intro empty
    rw [unpadField, empty]
    exact of_utf8_utf8 ""

theorem decode_nameless {record : Bytes} (sized : record.length = recordWidth) :
    (decode? record).map Account.username = some "" ↔ record.head? = some 0 := by
  change record.length = 149 at sized
  have name : (decode? record).map Account.username =
      unpadField (record.take usernameWidth) := by
    rw [decode?, dif_pos sized]
    simp [Option.map_map, Function.comp_def]
  rw [name, unpad_field_eq_empty]
  cases record with
  | nil => simp at sized
  | cons first rest =>
      rw [List.head?_cons, Option.some_inj, usernameWidth, List.take_succ_cons]
      by_cases zero : first = 0
      · simp [zero]
      · simp [zero]

end Account

namespace Store

/-- A record that is read when the backing is opened begins with a zero byte. -/
def ReadsNameless (backing : Backing) (capacity : Nat) : Prop :=
  backing.Whole ∧ ∃ record ∈ backing.records.take capacity, record.head? = some 0

theorem load_nameless_iff (backing : Backing) (capacity : Nat) :
    "" ∈ (load backing capacity).usernames ↔ ReadsNameless backing capacity := by
  unfold usernames ReadsNameless
  by_cases whole : backing.Whole
  · have reads : ∀ record ∈ backing.records.take capacity,
        ((Account.decode? record).map Account.username = some "" ↔ record.head? = some 0) := by
      intro record member
      exact Account.decode_nameless (records_of_width (List.mem_of_mem_take member))
    rw [(load_opened capacity whole).rows_eq, mem_keep_all_usernames]
    constructor
    · rintro (none | ⟨record, member, nameless⟩)
      · simp at none
      · exact ⟨whole, record, member, (reads record member).mp nameless⟩
    · rintro ⟨_, record, member, zero⟩
      exact .inr ⟨record, member, (reads record member).mpr zero⟩
  · rw [(load_of_not_whole whole).1]
    simp [whole]

/-- A row without a name gets a session only from an action that says so. -/
theorem perform_nameless {store : Store} {action : Action} {row : Account}
    (member : row ∈ (store.perform action).rows) (nameless : row.username = "") :
    row ∈ store.rows ∨ action = .setSession "" row.session := by
  have change := store.row_change action
  generalize (store.perform action).rows = rows at change member
  cases change with
  | kept => exact .inl member
  | added username salt passwordHash iterations checked room fresh =>
      rcases List.mem_append.mp member with before | added
      · exact .inl before
      · rw [List.mem_singleton] at added
        rw [added] at nameless
        exact absurd nameless (check_username_ok.mp checked).1
  | replaced username session fits known =>
      rcases mem_replace_session member with before | ⟨named, changed⟩
      · exact .inl before
      · right
        rw [changed, ← named, nameless]

end Store

namespace Service

theorem LoginCase.nameless {service : Service} {username password : String}
    {result : Except Failure Login × Service} {row : Account}
    (ended : LoginCase service username password result)
    (member : row ∈ result.2.store.rows) (nameless : row.username = "") :
    row ∈ service.store.rows := by
  cases ended with
  | missing reason => exact member
  | unknown journal given absent => exact member
  | wrong journal account given found refuted => exact member
  | dry journal account given found proved failure failed => exact member
  | signedIn journal account given found proved bytes drawn =>
      rcases Store.mem_replace_session member with before | ⟨named, _⟩
      · exact before
      · exact absurd (named.symm.trans nameless) given.1

/-- A call leaves a row without a name as it is, or logs it out. -/
theorem act_nameless {service : Service} {action : Action} {row : Account}
    (member : row ∈ (service.act action).2.store.rows) (nameless : row.username = "") :
    row ∈ service.store.rows ∨ row.session = "" := by
  cases action with
  | register username password =>
      simp only [act] at member
      have ended := service.register_case username password
      generalize service.register username password = result at ended member
      cases ended with
      | refused failure journal content tried entropy kept early => exact .inl member
      | enrolled journal salt drawn checked given fresh signIn =>
          rcases List.mem_append.mp (signIn.nameless member nameless) with before | added
          · exact .inl before
          · rw [List.mem_singleton] at added
            rw [added] at nameless
            exact absurd nameless (check_username_ok.mp checked).1
  | login username password =>
      exact .inl ((service.login_case username password).nameless member nameless)
  | resolve cookie => exact .inl member
  | logout visitor =>
      obtain ⟨journal, ended⟩ := service.logout_case visitor
      simp only [act, ended, rowsWithout] at member
      split at member
      · exact .inl member
      · exact (Store.mem_replace_session member).imp_right And.right
  | appendsFail fault => exact .inl member

/-- What is done to a table that serves calls: a call, or an action on the table itself. -/
inductive Operation where
  | call (action : Action)
  | table (action : Store.Action)

def operate (service : Service) : Operation → Service
  | .call action => (service.act action).2
  | .table action => { service with store := service.store.perform action }

def operateAll (service : Service) (operations : List Operation) : Service :=
  operations.foldl operate service

theorem operate_grown (service : Service) (operation : Operation) :
    ∃ added, service.store.Grown (service.operate operation).store added := by
  cases operation with
  | call action => exact service.act_grown action
  | table action => exact ⟨_, Store.grown_perform service.store action⟩

theorem operate_all_grown (service : Service) (operations : List Operation) :
    ∃ added, service.store.Grown (service.operateAll operations).store added := by
  induction operations generalizing service with
  | nil => exact ⟨[], .unchanged rfl rfl rfl⟩
  | cons operation operations ih =>
      obtain ⟨first, earlier⟩ := service.operate_grown operation
      obtain ⟨second, later⟩ := ih (service.operate operation)
      exact ⟨first ++ second, earlier.trans later⟩

theorem operate_nameless {service : Service} {operation : Operation} {row : Account}
    (member : row ∈ (service.operate operation).store.rows) (nameless : row.username = "") :
    row ∈ service.store.rows ∨ row.session = "" ∨
      operation = .table (.setSession "" row.session) := by
  cases operation with
  | call action => exact (act_nameless member nameless).imp_right .inl
  | table action =>
      refine (Store.perform_nameless member nameless).imp_right ?_
      intro given
      exact .inr (congrArg Operation.table given)

theorem operate_all_nameless {service : Service} {operations : List Operation} {row : Account}
    (member : row ∈ (service.operateAll operations).store.rows) (nameless : row.username = "") :
    row ∈ service.store.rows ∨ row.session = "" ∨
      .table (.setSession "" row.session) ∈ operations := by
  -- the hypothesis follows the row back to the table after the first operation
  induction operations generalizing service with
  | nil => exact .inl member
  | cons operation operations ih =>
      rcases ih member with first | empty | later
      · rcases operate_nameless first nameless with before | empty | given
        · exact .inl before
        · exact .inr (.inl empty)
        · exact .inr (.inr (List.mem_cons.mpr (.inl given.symm)))
      · exact .inr (.inl empty)
      · exact .inr (.inr (List.mem_cons_of_mem _ later))

theorem resolve_some {service : Service} {cookie : Option String} {username : String}
    (signedIn : service.resolve cookie = ⟨some username⟩) :
    ∃ id, cookie = some id ∧ id ≠ "" ∧
      ∃ row ∈ service.store.rows, row.username = username ∧ row.session = id := by
  unfold resolve at signedIn
  cases cookie with
  | none => simp [Visitor.anonymous] at signedIn
  | some id =>
      rw [Option.bind_some] at signedIn
      split at signedIn
      · rename_i row found
        obtain ⟨given, session, earlier, later, place, _⟩ :=
          Store.find_by_session_eq_some_iff.mp found
        have member : row ∈ service.store.rows := by simp [place]
        exact ⟨id, rfl, given, row, member, by simpa using signedIn, session⟩
      · simp [Visitor.anonymous] at signedIn

/-- Every name but the empty one is found, at all times. The empty name is listed just if a record
that was read begins with a zero byte; and a cookie stands for it only with the session of such a
record or with one that was written into its row directly. -/
theorem nameless_row_comes_from_backing {backing : Backing} {capacity : Nat} {opened : Store}
    (start : opened = Store.load backing capacity ∨ Store.tryLoad backing capacity = .ok opened)
    (settings : Settings) (entropy : Entropy) (operations : List Operation) :
    let live := (⟨settings, opened, entropy⟩ : Service).operateAll operations
    (∀ name ∈ live.store.usernames, name ≠ "" →
        ∃ row, live.store.findByUsername name = some row ∧ row.username = name) ∧
      live.store.findByUsername "" = none ∧
      ("" ∈ live.store.usernames ↔ Store.ReadsNameless backing capacity) ∧
      ∀ cookie, live.resolve cookie = ⟨some ""⟩ →
        Store.ReadsNameless backing capacity ∧ ∃ id, cookie = some id ∧ id ≠ "" ∧
          ((∃ row ∈ opened.rows, row.username = "" ∧ row.session = id) ∨
            .table (.setSession "" id) ∈ operations) := by
  intro live
  have loaded := Store.load_eq_of_start start
  obtain ⟨added, grown⟩ :=
    (⟨settings, opened, entropy⟩ : Service).operate_all_grown operations
  have distinct : live.store.usernames.Nodup :=
    grown.distinct (loaded ▸ Store.load_nodup backing capacity)
  have listed : "" ∈ live.store.usernames ↔ Store.ReadsNameless backing capacity := by
    rw [← Store.load_nameless_iff, loaded, grown.usernames_eq, List.mem_append]
    constructor
    · rintro (before | new)
      · exact before
      · obtain ⟨account, member, nameless⟩ := List.mem_map.mp new
        exact absurd nameless (check_username_ok.mp (grown.enrolled account member).checked).1
    · exact .inl
  refine ⟨?_, rfl, listed, ?_⟩
  · intro name member given
    obtain ⟨row, _, found, _⟩ := Store.find_by_username_unique distinct given member
    exact ⟨row, found, (found_username found).1⟩
  · intro cookie signedIn
    obtain ⟨id, carried, given, row, member, nameless, session⟩ := resolve_some signedIn
    refine ⟨listed.mp (List.mem_map.mpr ⟨row, member, nameless⟩), id, carried, given, ?_⟩
    rcases operate_all_nameless member nameless with before | empty | written
    · exact .inl ⟨row, before, nameless, session⟩
    · exact absurd (session.symm.trans empty) given
    · exact .inr (session ▸ written)

/-- A record of zeros but for a session. -/
def ghostBacking : Backing :=
  .sound "users" (some
    (Account.encode ⟨"", Vector.replicate 16 0, Vector.replicate 32 0, 0, "ghost"⟩))

def ghostService : Service :=
  ⟨⟨1, 1, "session"⟩, .load ghostBacking 2, .ofSequence fun index => UInt8.ofNat index⟩

theorem ghost_is_listed_and_signed_in :
    ghostService.store.usernames = [""] ∧ ghostService.store.findByUsername "" = none ∧
      ghostService.resolve (some "ghost") = ⟨some ""⟩ := by
  decide +kernel

/-- An account beside the ghost, and an attempt to sign in without a name. -/
def ghostOperations : List Operation :=
  [.table (.insert "bob" (Vector.replicate 16 3) (Vector.replicate 32 4) 2000),
    .call (.login "" "secret")]

theorem ghost_stays_beside_bob :
    let live := ghostService.operateAll ghostOperations
    (∃ row, live.store.findByUsername "bob" = some row ∧ row.username = "bob") ∧
      "" ∈ live.store.usernames ∧ Store.ReadsNameless ghostBacking 2 ∧
      live.resolve (some "ghost") = ⟨some ""⟩ ∧
      ∃ row ∈ ghostService.store.rows, row.username = "" ∧ row.session = "ghost" := by
  intro live
  have bob : "bob" ∈ live.store.usernames := by decide +kernel
  have signedIn : live.resolve (some "ghost") = ⟨some ""⟩ := by decide +kernel
  have start : Store.load ghostBacking 2 = Store.load ghostBacking 2 ∨
      Store.tryLoad ghostBacking 2 = .ok (Store.load ghostBacking 2) := .inl rfl
  obtain ⟨found, _, listed, cookies⟩ := nameless_row_comes_from_backing start
    ⟨1, 1, "session"⟩ (.ofSequence fun index => UInt8.ofNat index) ghostOperations
  obtain ⟨reads, id, carried, _, origin⟩ := cookies _ signedIn
  obtain rfl := Option.some_inj.mp carried
  rcases origin with loaded | written
  · exact ⟨found "bob" bob (by decide), listed.mpr reads, reads, signedIn, loaded⟩
  · simp [ghostOperations] at written

end Service

end Accounts
