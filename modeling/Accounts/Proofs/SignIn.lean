import Accounts.Proofs.Credentials
import Accounts.Proofs.Hash.Stretching

/-!
# What a login comes to

A login is decided by the first of four questions: is the form filled in, is there an
account of this name, is the password that of the account, and can random bytes be had.
Nothing but the session of the account ever changes, and that only if all four are
answered with yes. Random bytes are not asked for before the fourth. A source that fails
gives the failure of the login, so the failure tells which question was answered with no
only if the source does not borrow the answers of the other three.
-/

namespace Accounts

/-- The standard key of a password under the salt and the iterations of an account. -/
def Account.standardHash (account : Account) (password : String) : Bytes :=
  Pbkdf2.standardKey (utf8 password) account.salt.toList (max account.iterations.toNat 1) hashWidth

theorem Account.has_password_iff {account : Account} {password : String} :
    account.HasPassword password ↔
      account.standardHash password = account.passwordHash.toList := by
  rw [HasPassword, standardHash, hashWidth, ← Pbkdf2.password_hash_eq, Vector.toList_inj]

theorem Store.replace_session_eq_map (username session : String) {rows : List Account}
    (distinct : (rows.map Account.username).Nodup) :
    replaceSession username session rows =
      rows.map fun row => if row.username = username then { row with session } else row := by
  induction rows with
  | nil => rfl
  | cons row rows ih =>
      rw [List.map_cons, List.nodup_cons] at distinct
      rw [replaceSession, List.map_cons]
      by_cases named : row.username = username
      -- The name is not there a second time, so behind its row nothing changes.
      · have others : ∀ other ∈ rows, other.username ≠ username := by
          intro other member same
          apply distinct.1
          rw [named, ← same]
          exact List.mem_map_of_mem member
        have kept : rows.map (fun row =>
            if row.username = username then { row with session } else row) = rows.map id := by
          apply List.map_congr_left
          intro other member
          exact if_neg (others other member)
        rw [if_pos named, if_pos named, kept, List.map_id]
      · rw [if_neg named, if_neg named, ih distinct.2]

theorem Store.find_by_username_eq_none_iff {store : Store} {username : String}
    (distinct : store.usernames.Nodup) (named : username ≠ "") :
    store.findByUsername username = none ↔ username ∉ store.usernames := by
  refine ⟨?_, find_by_username_eq_none⟩
  intro absent member
  obtain ⟨row, place, rfl⟩ := List.mem_map.mp member
  rw [find_by_username_of_mem distinct named place] at absent
  exact absurd absent (Option.some_ne_none row)

namespace Service

section

variable {service : Service} {username password : String} {result : Except Failure Login × Service}

theorem LoginCase.missing_of (ended : LoginCase service username password result)
    (reason : username = "" ∨ password = "") : result.1 = .error .missingCredentials := by
  cases ended with
  | missing reason => rfl
  | unknown journal given absent => exact absurd reason (not_or.mpr given)
  | wrong journal account given found refuted => exact absurd reason (not_or.mpr given)
  | dry journal account given found proved failure failed =>
      exact absurd reason (not_or.mpr given)
  | signedIn journal account given found proved bytes drawn =>
      exact absurd reason (not_or.mpr given)

theorem LoginCase.unknown_of (ended : LoginCase service username password result)
    (given : username ≠ "" ∧ password ≠ "")
    (absent : service.store.findByUsername username = none) :
    result.1 = .error .accountNotFound := by
  cases ended with
  | missing reason => exact absurd reason (not_or.mpr given)
  | unknown journal given absent => rfl
  | wrong journal account given found refuted => simp [absent] at found
  | dry journal account given found proved failure failed => simp [absent] at found
  | signedIn journal account given found proved bytes drawn => simp [absent] at found

section

variable (honest : service.entropy.FailsAsEntropy)
include honest

theorem LoginCase.missing_iff (ended : LoginCase service username password result) :
    result.1 = .error .missingCredentials ↔ username = "" ∨ password = "" := by
  refine ⟨?_, ended.missing_of⟩
  intro outcome
  cases ended with
  | missing reason => exact reason
  | unknown journal given absent => simp at outcome
  | wrong journal account given found refuted => simp at outcome
  | dry journal account given found proved failure failed =>
      obtain ⟨reason, rfl⟩ := honest.draw_error failed
      simp at outcome
  | signedIn journal account given found proved bytes drawn => simp at outcome

theorem LoginCase.unknown_iff (ended : LoginCase service username password result)
    (given : username ≠ "" ∧ password ≠ "") :
    result.1 = .error .accountNotFound ↔ service.store.findByUsername username = none := by
  refine ⟨?_, ended.unknown_of given⟩
  intro outcome
  cases ended with
  | missing reason => exact absurd reason (not_or.mpr given)
  | unknown journal given absent => exact absent
  | wrong journal account given found refuted => simp at outcome
  | dry journal account given found proved failure failed =>
      obtain ⟨reason, rfl⟩ := honest.draw_error failed
      simp at outcome
  | signedIn journal account given found proved bytes drawn => simp at outcome

theorem LoginCase.wrong_iff (ended : LoginCase service username password result)
    {account : Account} (found : service.store.findByUsername username = some account)
    (given : password ≠ "") :
    result.1 = .error .wrongPassword ↔ ¬ account.HasPassword password := by
  refine ⟨?_, ended.refuted found given⟩
  intro outcome proved
  rcases ended.of_right_password found given proved with
    ⟨failure, journal, failed, rfl⟩ | ⟨bytes, journal, drawn, rfl⟩
  · obtain ⟨reason, rfl⟩ := honest.draw_error failed
    simp at outcome
  · simp at outcome

end

theorem LoginCase.failed_store (ended : LoginCase service username password result)
    {failure : Failure} (failed : result.1 = .error failure) :
    ∃ journal, result.2.store = { service.store with journal } := by
  cases ended with
  | missing reason => exact ⟨service.store.journal, rfl⟩
  | unknown journal given absent => exact ⟨journal, rfl⟩
  | wrong journal account given found refuted => exact ⟨journal, rfl⟩
  | dry journal account given found proved cause dried => exact ⟨journal, rfl⟩
  | signedIn journal account given found proved bytes drawn => simp at failed

theorem LoginCase.signed_in_store (ended : LoginCase service username password result)
    {login : Login} (succeeded : result.1 = .ok login) :
    ∃ journal, result.2.store = { service.store with
      journal, rows := Store.replaceSession username login.session service.store.rows } := by
  cases ended with
  | missing reason => simp at succeeded
  | unknown journal given absent => simp at succeeded
  | wrong journal account given found refuted => simp at succeeded
  | dry journal account given found proved failure failed => simp at succeeded
  | signedIn journal account given found proved bytes drawn =>
      obtain rfl := Except.ok.inj succeeded
      exact ⟨journal, rfl⟩

theorem LoginCase.entropy_cases (ended : LoginCase service username password result) :
    result.2.entropy = service.entropy ∨
      ∃ account, service.store.findByUsername username = some account ∧
        account.HasPassword password := by
  cases ended with
  | missing reason => exact .inl rfl
  | unknown journal given absent => exact .inl rfl
  | wrong journal account given found refuted => exact .inl rfl
  | dry journal account given found proved failure failed => exact .inr ⟨account, found, proved⟩
  | signedIn journal account given found proved bytes drawn => exact .inr ⟨account, found, proved⟩

/-- Behind a right password the source of random bytes decides. -/
theorem LoginCase.source_decides (ended : LoginCase service username password result)
    {account : Account} (found : service.store.findByUsername username = some account)
    (given : password ≠ "") (proved : account.HasPassword password) :
    let drawn := service.entropy.draw service.settings.sessionEntropy
    result.2.entropy = drawn.2 ∧
      (∀ failure, result.1 = .error failure ↔ drawn.1 = .error failure) ∧
      ∀ bytes, drawn.1 = .ok bytes →
        result.1 = .ok ⟨username, sessionOf bytes.toList, service.settings.cookieName⟩ := by
  intro drawn
  obtain ⟨entropy, ⟨reason, failed, refused⟩ | ⟨bytes, delivered, signedIn, _⟩⟩ :=
    ended.proved found given proved
  · refine ⟨entropy, ?_, ?_⟩
    · intro failure
      rw [refused, failed, Except.error.injEq, Except.error.injEq]
    · intro bytes delivered
      simp [drawn, failed] at delivered
  · refine ⟨entropy, ?_, ?_⟩
    · intro failure
      simp [drawn, signedIn, delivered]
    · intro others same
      obtain rfl : bytes = others := Except.ok.inj (delivered.symm.trans same)
      exact signedIn

end

/-- An issued id fits a record, so a row takes it. -/
theorem issued_session_taken {store : Store} {username id : String} {source : Entropy} {size : Nat}
    (member : username ∈ store.usernames) (issued : (issueSession source size).1 = .ok id) :
    (store.setSession username id).1 = true := by
  have outcome := issuing source size
  generalize issueSession source size = result at issued outcome
  cases outcome with
  | dry failure failed => simp at issued
  | issued bytes drawn =>
      obtain rfl := Except.ok.inj issued
      have full := session_of_size bytes.toList
      have change := store.session_change username (sessionOf bytes.toList)
      generalize store.setSession username (sessionOf bytes.toList) = result at change ⊢
      cases change with
      | refused journal reason =>
          rcases reason with long | absent
          · omega
          · exact absurd member absent
      | taken fits member => rfl

/-- The outcome of a login, and what it leaves as it was. Where the source of random bytes fails as
such, the outcome tells in turn which question was the first to be answered with no. The last
clause is about the row of an account that has proved its password: it always takes the session
that was issued for it. -/
theorem login_decided_by_first_fault (service : Service) (username password : String)
    (distinct : service.store.usernames.Nodup) :
    let outcome := (service.login username password).1
    let after := (service.login username password).2
    let drawn := service.entropy.draw service.settings.sessionEntropy
    (username = "" ∨ password = "" → outcome = .error .missingCredentials) ∧
      (username ≠ "" → password ≠ "" →
        (username ∉ service.store.usernames → outcome = .error .accountNotFound) ∧
        ∀ row ∈ service.store.rows, row.username = username →
          (row.standardHash password ≠ row.passwordHash.toList →
            outcome = .error .wrongPassword) ∧
          (row.standardHash password = row.passwordHash.toList →
            after.entropy = drawn.2 ∧
            (∀ failure, outcome = .error failure ↔ drawn.1 = .error failure) ∧
            ∀ bytes, drawn.1 = .ok bytes →
              outcome = .ok ⟨username, sessionOf bytes.toList, service.settings.cookieName⟩)) ∧
      (service.entropy.FailsAsEntropy →
        (outcome = .error .missingCredentials ↔ username = "" ∨ password = "") ∧
        (username ≠ "" → password ≠ "" →
          (outcome = .error .accountNotFound ↔ username ∉ service.store.usernames) ∧
          ∀ row ∈ service.store.rows, row.username = username →
            (outcome = .error .wrongPassword ↔
              row.standardHash password ≠ row.passwordHash.toList) ∧
            (row.standardHash password = row.passwordHash.toList →
              ((∃ reason, outcome = .error (.entropy reason)) ↔
                ∃ failure, drawn.1 = .error failure)))) ∧
      (∀ failure, outcome = .error failure →
        ∃ journal, after.store = { service.store with journal }) ∧
      (∀ login, outcome = .ok login → ∃ journal, after.store = { service.store with
        journal
        rows := service.store.rows.map fun row =>
          if row.username = username then { row with session := login.session } else row }) ∧
      (after.entropy = service.entropy ∨ ∃ row ∈ service.store.rows, row.username = username ∧
        row.standardHash password = row.passwordHash.toList) ∧
      ∀ row ∈ service.store.rows, row.username = username → ∀ id journal,
        (issueSession service.entropy service.settings.sessionEntropy).1 = .ok id →
          (Store.setSession { service.store with journal } username id).1 = true := by
  intro outcome after drawn
  have ended : LoginCase service username password (outcome, after) :=
    service.login_case username password
  refine ⟨ended.missing_of, ?_, ?_, fun failure failed => ended.failed_store failed, ?_, ?_, ?_⟩
  · intro named given
    refine ⟨?_, ?_⟩
    · rw [← Store.find_by_username_eq_none_iff distinct named]
      exact ended.unknown_of ⟨named, given⟩
    · rintro row member rfl
      have found := Store.find_by_username_of_mem distinct named member
      rw [ne_eq, ← Account.has_password_iff]
      exact ⟨ended.refuted found given, ended.source_decides found given⟩
  · intro honest
    refine ⟨ended.missing_iff honest, fun named given => ⟨?_, ?_⟩⟩
    · rw [← Store.find_by_username_eq_none_iff distinct named]
      exact ended.unknown_iff honest ⟨named, given⟩
    · rintro row member rfl
      have found := Store.find_by_username_of_mem distinct named member
      rw [ne_eq, ← Account.has_password_iff]
      refine ⟨ended.wrong_iff honest found given, fun proved => ?_⟩
      obtain ⟨_, failures, _⟩ := ended.source_decides found given proved
      constructor
      · rintro ⟨reason, failed⟩
        exact ⟨_, (failures _).mp failed⟩
      · rintro ⟨failure, failed⟩
        obtain ⟨reason, rfl⟩ := honest.draw_error failed
        exact ⟨reason, (failures _).mpr failed⟩
  · intro login succeeded
    obtain ⟨journal, changed⟩ := ended.signed_in_store succeeded
    rw [Store.replace_session_eq_map _ _ distinct] at changed
    exact ⟨journal, changed⟩
  · rcases ended.entropy_cases with same | ⟨account, found, proved⟩
    · exact .inl same
    · obtain ⟨named, member⟩ := found_username found
      exact .inr ⟨account, member, named, Account.has_password_iff.mp proved⟩
  · intro row member named id journal issued
    exact issued_session_taken (List.mem_map.mpr ⟨row, member, named⟩) issued

/-- A source can call its own failure a wrong password, and so does the login then. -/
example :
    let salt : Salt := Vector.replicate 16 7
    let row := Account.new "alice" salt (Pbkdf2.passwordHash (utf8 "secret") salt.toList 1) 1
    let source : Entropy := ⟨fun _ _ => .error .wrongPassword, []⟩
    let service : Service :=
      ⟨⟨1000, 1, "session"⟩, ⟨.sound "users" none, 2, [row], .fresh, []⟩, source⟩
    (service.login "alice" "secret").1 = .error .wrongPassword := by
  decide +kernel

theorem alice_is_refused_and_signed_in :
    let salt : Salt := Vector.replicate 16 7
    let row := Account.new "alice" salt (Pbkdf2.passwordHash (utf8 "secret") salt.toList 1) 1
    let source : Entropy := .ofScript [.ok [0]]
    let service : Service :=
      ⟨⟨1000, 1, "session"⟩, ⟨.sound "users" none, 2, [row], .fresh, []⟩, source⟩
    service.store.usernames.Nodup ∧ service.entropy.FailsAsEntropy ∧
      (service.login "bob" "secret").1 = .error .accountNotFound ∧
      (service.login "alice" "guess").1 = .error .wrongPassword ∧
      (∃ journal, (service.login "alice" "guess").2.store = { service.store with journal }) ∧
      (∃ login, (service.login "alice" "secret").1 = .ok login) ∧
      (service.login "alice" "secret").1 ≠ .error .wrongPassword := by
  intro salt row source service
  have distinct : service.store.usernames.Nodup := List.nodup_singleton "alice"
  have honest : service.entropy.FailsAsEntropy := Entropy.of_script_fails_as_entropy _
  have member : row ∈ service.store.rows := List.mem_singleton_self row
  have right : row.HasPassword "secret" := rfl
  have wrong : ¬ row.HasPassword "guess" := by
    unfold Account.HasPassword
    decide +kernel
  rw [Account.has_password_iff] at right wrong
  have delivered : (service.entropy.draw 1).1 = .ok #v[0] := by decide +kernel
  obtain ⟨_, unknown, _⟩ := login_decided_by_first_fault service "bob" "secret" distinct
  obtain ⟨_, guessed, _, failed, _⟩ :=
    login_decided_by_first_fault service "alice" "guess" distinct
  obtain ⟨_, known, told, _⟩ := login_decided_by_first_fault service "alice" "secret" distinct
  have absent := (unknown (by decide) (by decide)).1 (by decide)
  have refused := ((guessed (by decide) (by decide)).2 row member rfl).1 wrong
  have entered := ((known (by decide) (by decide)).2 row member rfl).2 right
  have accused := (((told honest).2 (by decide) (by decide)).2 row member rfl).1
  exact ⟨distinct, honest, absent, refused, failed _ refused, ⟨_, entered.2.2 _ delivered⟩,
    fun outcome => accused.mp outcome right⟩

end Service

end Accounts
