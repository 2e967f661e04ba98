import Accounts.Proofs.SignIn

/-!
# What a registration comes to

The reasons against a registration count in a fixed order, and the first of them is its
failure. Until the record of the account is appended there is nothing to take back: all
that can remain is a remark in the journal and a salt that was drawn, and what a failing
append leaves behind. Behind the append only the random bytes for the session can fail.
The login at the end repeats the derivation with the salt and the iterations of the new
row, so it cannot refuse the password.
-/

namespace Accounts

/-- What can be wrong with a registration form, in the order in which it counts. -/
def formFaults (username password : String) : List (Option Failure) :=
  [if username = "" ∧ password = "" then some .missingCredentials else none,
    if username = "" then some .emptyUsername else none,
    if maxUsernameBytes < username.utf8ByteSize then
      some (.usernameTooLong username.utf8ByteSize maxUsernameBytes) else none,
    if username.toList.any isControl then some .invalidUsername else none,
    if password = "" then some .emptyPassword else none,
    if maxPasswordBytes < password.utf8ByteSize then
      some (.passwordTooLong password.utf8ByteSize maxPasswordBytes) else none]

namespace Store

/-- Why a table does not take an account that it does not have yet. -/
def faults (store : Store) : List (Option Failure) :=
  [if store.capacity ≤ store.rows.length then some (.tableFull store.capacity) else none,
    store.backing.appendFault.map .storage]

variable {username : String}

theorem find_by_username_is_some {store : Store} (named : username ≠ "") :
    (store.findByUsername username).isSome = true ↔ username ∈ store.usernames := by
  rw [findByUsername, if_neg (by simpa using named), List.find?_isSome, usernames, List.mem_map]
  simp

theorem replace_session_append {username session : String} {rows : List Account}
    {account : Account} (named : account.username = username)
    (fresh : username ∉ rows.map Account.username) :
    replaceSession username session (rows ++ [account]) = rows ++ [{ account with session }] := by
  induction rows with
  | nil => exact if_pos named
  | cons row rows ih =>
      rw [List.map_cons, List.mem_cons, not_or] at fresh
      rw [List.cons_append, replaceSession, if_neg (Ne.symm fresh.1), ih fresh.2, List.cons_append]

/-- An acceptable name that is not there yet is refused by the table or its backing alone. -/
theorem refusals_of_new {store : Store} (checked : checkUsername username = .ok ())
    (fresh : username ∉ store.usernames) :
    (store.refusals username).findSome? id = store.faults.findSome? id := by
  rw [refusals, List.findSome?_append, ← fault_of_check_username, checked]
  by_cases full : store.capacity ≤ store.rows.length
  · simp [faults, faultOf, full]
  · simp [faults, faultOf, full, fresh]

end Store

namespace Service

theorem fault_of_check_form (username password : String) :
    faultOf (checkForm username password) = (formFaults username password).findSome? id := by
  have split : formFaults username password =
      (if username = "" ∧ password = "" then some .missingCredentials else none) ::
        (usernameFaults username ++
          [if password = "" then some .emptyPassword else none,
            if maxPasswordBytes < password.utf8ByteSize then
              some (.passwordTooLong password.utf8ByteSize maxPasswordBytes) else none]) := rfl
  rw [split, List.findSome?_cons, List.findSome?_append, ← fault_of_check_username, checkForm]
  by_cases missing : username = "" ∧ password = ""
  · simp [missing, faultOf]
  · have asked : (username.isEmpty && password.isEmpty) = false := by simpa using missing
    rw [if_neg missing, asked]
    cases checkUsername username with
    | error failure => simp [faultOf]
    | ok =>
        by_cases given : password = ""
        · simp [given, faultOf]
        · by_cases wide : maxPasswordBytes < password.utf8ByteSize
          · simp [given, wide, faultOf]
          · simp [given, wide, faultOf]

/-- Why a registration fails before random bytes are asked for. -/
def earlyFaults (service : Service) (username password : String) : List (Option Failure) :=
  formFaults username password ++
    [if username ∈ service.store.usernames then some .accountExists else none]

/-- Why a registration fails before its record is appended. -/
def lateFaults (service : Service) : List (Option Failure) :=
  faultOf (service.entropy.draw 16).1 :: service.store.faults

variable {service : Service} {username password : String} {failure : Failure}

theorem register_refused_early
    (refused : (service.earlyFaults username password).findSome? id = some failure) :
    ∃ journal, service.register username password =
      (.error failure, { service with store := { service.store with journal } }) := by
  rw [earlyFaults, List.findSome?_append, ← fault_of_check_form] at refused
  cases form : checkForm username password with
  | error reason =>
      obtain rfl : reason = failure := by simpa [form, faultOf] using refused
      simp only [register, form]
      exact ⟨service.store.journal, rfl⟩
  | ok =>
      have named : username ≠ "" := (check_username_ok.mp (check_form_ok.mp form).1).1
      by_cases taken : username ∈ service.store.usernames
      · obtain rfl : .accountExists = failure := by simpa [form, faultOf, taken] using refused
        have found := (Store.find_by_username_is_some named).mpr taken
        simp only [register, form, found, if_true]
        exact ⟨_, rfl⟩
      · simp [form, faultOf, taken] at refused

theorem early_faults_eq_none :
    (service.earlyFaults username password).findSome? id = none ↔
      checkForm username password = .ok () ∧ username ∉ service.store.usernames := by
  rw [earlyFaults, List.findSome?_append, ← fault_of_check_form]
  cases form : checkForm username password with
  | error reason => simp [faultOf]
  | ok => simp [faultOf]

section

variable (form : checkForm username password = .ok ()) (fresh : username ∉ service.store.usernames)
include form fresh

theorem register_past_form :
    service.register username password =
      match (service.entropy.draw 16).1 with
      | .error failure => (.error failure, { service with entropy := (service.entropy.draw 16).2 })
      | .ok salt =>
          let account := service.newAccount username password salt
          match (service.store.note (.keyDerived service.settings.iterations)).insert username salt
              account.passwordHash service.settings.iterations with
          | (.error failure, store) =>
              (.error failure, { service with store, entropy := (service.entropy.draw 16).2 })
          | (.ok (), store) =>
              ({ service with store, entropy := (service.entropy.draw 16).2 }.note
                (.registered username service.settings.iterations)).login username password := by
  have named : username ≠ "" := (check_username_ok.mp (check_form_ok.mp form).1).1
  have unknown : (service.store.findByUsername username).isSome = false := by
    rw [← Bool.not_eq_true, Store.find_by_username_is_some named]
    exact fresh
  have drawn : service.entropy.draw 16 =
      ((service.entropy.draw 16).1, (service.entropy.draw 16).2) := rfl
  simp only [register, form, unknown]
  cases salted : (service.entropy.draw 16).1 with
  | error reason =>
      rw [drawn, salted]
      rfl
  | ok salt =>
      rw [drawn, salted]
      rfl

theorem register_refused_late (refused : service.lateFaults.findSome? id = some failure) :
    ∃ record journal backing, service.store.backing.Left record backing ∧
      ((service.entropy.draw 16).1 = .error failure ∨ (∀ fault, failure ≠ .storage fault) →
        backing = service.store.backing) ∧
      service.register username password = (.error failure, { service with
        store := { service.store with journal, backing }
        entropy := (service.entropy.draw 16).2 }) := by
  rw [register_past_form form fresh]
  cases salted : (service.entropy.draw 16).1 with
  | error reason =>
      obtain rfl : reason = failure := by simpa [lateFaults, salted, faultOf] using refused
      exact ⟨[], service.store.journal, service.store.backing, .inl rfl, fun _ => rfl, rfl⟩
  | ok salt =>
      have full : service.store.faults.findSome? id = some failure := by
        simpa [lateFaults, salted, faultOf] using refused
      obtain ⟨left, journal, rejected⟩ :=
        (service.store.note (.keyDerived service.settings.iterations)).insert_refused salt
          (service.newAccount username password salt).passwordHash service.settings.iterations
          ((Store.refusals_of_new (check_form_ok.mp form).1 fresh).trans full)
      simp only [rejected]
      refine ⟨_, journal, _, left, ?_, rfl⟩
      rintro (dry | other)
      · exact absurd dry (by simp)
      · exact Backing.after_refusal_of_other other

theorem register_enrols (accepted : service.lateFaults.findSome? id = none) :
    ∃ salt journal, (service.entropy.draw 16).1 = .ok salt ∧
      service.register username password =
        (service.enrol (service.newAccount username password salt) journal).login
          username password := by
  rw [register_past_form form fresh]
  cases salted : (service.entropy.draw 16).1 with
  | error reason => simp [lateFaults, salted, faultOf] at accepted
  | ok salt =>
      have room : service.store.faults.findSome? id = none := by
        simpa [lateFaults, salted, faultOf] using accepted
      obtain ⟨journal, inserted⟩ :=
        (service.store.note (.keyDerived service.settings.iterations)).insert_accepted salt
          (service.newAccount username password salt).passwordHash service.settings.iterations
          ((Store.refusals_of_new (check_form_ok.mp form).1 fresh).trans room)
      simp only [inserted]
      exact ⟨salt, _, rfl, rfl⟩

/-- The login of a new row cannot refuse it: it either gives the row a session or finds no random
bytes for one. -/
theorem register_signs_in (accepted : service.lateFaults.findSome? id = none) :
    let drawn := (service.entropy.draw 16).2.draw service.settings.sessionEntropy
    ∃ salt session journal, (service.entropy.draw 16).1 = .ok salt ∧
      (service.register username password).2 = { service with
        store := { service.store with
          journal
          rows := service.store.rows ++
            [{ service.newAccount username password salt with session }]
          backing := { service.store.backing with
            content := some (service.store.backing.bytes ++
              (service.newAccount username password salt).encode)
            tried := true } }
        entropy := drawn.2 } ∧
      ((∃ failure, drawn.1 = .error failure ∧ session = "" ∧
          (service.register username password).1 = .error failure) ∨
        ∃ bytes, drawn.1 = .ok bytes ∧ session = sessionOf bytes.toList ∧
          (service.register username password).1 =
            .ok ⟨username, session, service.settings.cookieName⟩) := by
  intro drawn
  obtain ⟨salt, journal, salted, entered⟩ := register_enrols form fresh accepted
  obtain ⟨checked, given, _⟩ := check_form_ok.mp form
  have named : username ≠ "" := (check_username_ok.mp checked).1
  let account := service.newAccount username password salt
  have found : (service.enrol account journal).store.findByUsername username = some account :=
    find_enrolled journal named fresh
  have outcome := ((service.enrol account journal).login_case username password).of_right_password
    found given (service.new_account_has_password username password salt)
  rcases outcome with ⟨failure, journal, failed, ended⟩ |
    ⟨(bytes : Vector Byte service.settings.sessionEntropy), journal, delivered, ended⟩
  · rw [entered, ended]
    exact ⟨salt, "", journal, salted, rfl, .inl ⟨failure, failed, rfl, rfl⟩⟩
  · have signedIn : Store.replaceSession username (sessionOf bytes.toList)
        (service.store.rows ++ [account]) =
        service.store.rows ++ [{ account with session := sessionOf bytes.toList }] :=
      Store.replace_session_append rfl fresh
    rw [entered, ended]
    refine ⟨salt, sessionOf bytes.toList, journal, salted, ?_, .inr ⟨bytes, delivered, rfl, rfl⟩⟩
    simp only [enrol]
    rw [signedIn]

end

theorem early_fault_not_about_password
    (refused : (service.earlyFaults username password).findSome? id = some failure) :
    failure ≠ .wrongPassword ∧ failure ≠ .accountNotFound := by
  obtain ⟨fault, member, same⟩ := List.exists_of_findSome?_eq_some refused
  obtain rfl : fault = some failure := same
  constructor
  · rintro rfl
    simp [earlyFaults, formFaults] at member
  · rintro rfl
    simp [earlyFaults, formFaults] at member

theorem late_fault_not_about_password (honest : service.entropy.FailsAsEntropy)
    (refused : service.lateFaults.findSome? id = some failure) :
    failure ≠ .wrongPassword ∧ failure ≠ .accountNotFound := by
  obtain ⟨fault, member, same⟩ := List.exists_of_findSome?_eq_some refused
  obtain rfl : fault = some failure := same
  rw [lateFaults, List.mem_cons] at member
  rcases member with dry | unstored
  · obtain ⟨reason, rfl⟩ := honest.draw_error (fault_of_eq_some.mp dry.symm)
    simp
  · simp only [Store.faults, List.mem_cons, List.not_mem_nil, or_false] at unstored
    rcases unstored with full | unwritten
    · split_ifs at full
      obtain rfl := Option.some_inj.mp full
      simp
    · obtain ⟨fault, _, rfl⟩ := Option.map_eq_some_iff.mp unwritten.symm
      simp

/-- A registration complains of neither a wrong password nor a missing account, unless the source of
random bytes does. -/
theorem register_not_about_password (honest : service.entropy.FailsAsEntropy) :
    (service.register username password).1 ≠ .error .wrongPassword ∧
      (service.register username password).1 ≠ .error .accountNotFound := by
  cases first : (service.earlyFaults username password).findSome? id with
  | some failure =>
      obtain ⟨wrong, unknown⟩ := early_fault_not_about_password first
      obtain ⟨journal, ended⟩ := register_refused_early first
      simp [ended, wrong, unknown]
  | none =>
      obtain ⟨form, fresh⟩ := early_faults_eq_none.mp first
      cases second : service.lateFaults.findSome? id with
      | some failure =>
          obtain ⟨wrong, unknown⟩ := late_fault_not_about_password honest second
          obtain ⟨record, journal, backing, _, _, ended⟩ :=
            register_refused_late form fresh second
          simp [ended, wrong, unknown]
      | none =>
          obtain ⟨salt, session, journal, _, _, answered⟩ := register_signs_in form fresh second
          rcases answered with ⟨failure, dry, _, failed⟩ | ⟨bytes, _, _, signedIn⟩
          · obtain ⟨reason, rfl⟩ := honest.draw.draw_error dry
            simp [failed]
          · simp [signedIn]

/-- The first fault of a registration is its failure. An early fault leaves everything but the
journal as it was, a late one costs the salt besides. Without either the account is there with its
record, whether or not its session can be issued. The backing is as it was after a late fault
unless it was the append that failed, and then too if appends are all or none. That a source of
random bytes fails as such is needed where a failure is said not to come up. -/
theorem registration_decided_by_first_fault (service : Service) (username password : String) :
    let outcome := (service.register username password).1
    let after := (service.register username password).2
    let early := (service.earlyFaults username password).findSome? id
    let late := service.lateFaults.findSome? id
    let salted := service.entropy.draw 16
    let drawn := salted.2.draw service.settings.sessionEntropy
    (service.entropy.FailsAsEntropy →
        outcome ≠ .error .wrongPassword ∧ outcome ≠ .error .accountNotFound) ∧
      (∀ failure, early = some failure → outcome = .error failure ∧
        ∃ journal, after = { service with store := { service.store with journal } }) ∧
      (∀ failure, early = none → late = some failure → outcome = .error failure ∧
        ∃ journal backing, after = { service with
          store := { service.store with journal, backing }
          entropy := salted.2 } ∧
          (salted.1 = .error failure ∨ (∀ fault, failure ≠ .storage fault) →
            backing = service.store.backing) ∧
          (service.store.backing.AllOrNone → service.store.backing.Spared backing)) ∧
      (early = none → late = none → ∃ salt session journal, salted.1 = .ok salt ∧
        let account : Account := ⟨username, salt,
          Pbkdf2.passwordHash (utf8 password) salt.toList service.settings.iterations,
          service.settings.iterations, ""⟩
        account.passwordHash.toList = account.standardHash password ∧
          account.encode.length = 149 ∧ Account.decode? account.encode = some account ∧
          after = { service with
            store := { service.store with
              journal
              rows := service.store.rows ++ [{ account with session }]
              backing := { service.store.backing with
                content := some (service.store.backing.bytes ++ account.encode)
                tried := true } }
            entropy := drawn.2 } ∧
          (∀ failure, drawn.1 = .error failure → outcome = .error failure ∧ session = "") ∧
          ∀ bytes, drawn.1 = .ok bytes →
            outcome = .ok ⟨username, session, service.settings.cookieName⟩ ∧
              session = sessionOf bytes.toList ∧ session.length = 64) ∧
      ∃ asked, asked <+: [16, service.settings.sessionEntropy] ∧
        after.entropy.asked = service.entropy.asked ++ asked := by
  intro outcome after early late salted drawn
  refine ⟨register_not_about_password, ?_⟩
  cases first : early with
  | some failure =>
      obtain ⟨journal, ended⟩ := register_refused_early first
      have left := congrArg Prod.snd ended
      refine ⟨?_, by simp, by simp, [], List.nil_prefix, ?_⟩
      · rintro _ ⟨⟩
        exact ⟨congrArg Prod.fst ended, journal, left⟩
      · rw [List.append_nil]
        exact congrArg (fun left => left.entropy.asked) left
  | none =>
      obtain ⟨form, fresh⟩ := early_faults_eq_none.mp first
      cases second : late with
      | some failure =>
          obtain ⟨record, journal, backing, spared, kept, ended⟩ :=
            register_refused_late form fresh second
          have left := congrArg Prod.snd ended
          refine ⟨by simp, ?_, by simp, [16], by simp, ?_⟩
          · rintro _ - ⟨⟩
            exact ⟨congrArg Prod.fst ended, journal, backing, left, kept, spared.spared⟩
          · exact congrArg (fun left => left.entropy.asked) left
      | none =>
          obtain ⟨salt, session, journal, given, left, answered⟩ :=
            register_signs_in form fresh second
          have checked := (check_form_ok.mp form).1
          refine ⟨by simp, by simp, ?_, [16, service.settings.sessionEntropy], by simp, ?_⟩
          · intro _ _
            refine ⟨salt, session, journal, given, ?_, encode_length _, ?_, left, ?_, ?_⟩
            · exact (Account.has_password_iff.mp
                (service.new_account_has_password username password salt)).symm
            · exact Account.decode_encode (Account.storable_new _ _ _ checked)
            · intro failure missing
              rcases answered with ⟨reason, dry, signedOut, failed⟩ | ⟨bytes, delivered, _⟩
              · obtain rfl := Except.error.inj (dry.symm.trans missing)
                exact ⟨failed, signedOut⟩
              · simp [drawn, salted, delivered] at missing
            · intro others same
              rcases answered with ⟨reason, dry, _⟩ | ⟨bytes, delivered, issued, signedIn⟩
              · simp [drawn, salted, dry] at same
              · obtain rfl := Except.ok.inj (delivered.symm.trans same)
                refine ⟨signedIn, issued, ?_⟩
                rw [issued]
                exact session_of_length bytes.toList
          · rw [show after = _ from left]
            simp [Entropy.draw]

theorem alice_is_added_without_a_session :
    let source : Entropy := .ofScript [.ok [7], .error "dry"]
    let crowded : Service := ⟨⟨1, 1, "session"⟩, .load (.sound "users" none) 0, source⟩
    let service : Service := ⟨⟨1, 1, "session"⟩, .load (.sound "users" none) 2, source⟩
    let stalled : Service := ⟨⟨1, 1, "session"⟩, Store.stalledTable, source⟩
    ((service.earlyFaults "alice" "").findSome? id = some .emptyPassword ∧
        (service.register "alice" "").1 = .error .emptyPassword) ∧
      (crowded.lateFaults.findSome? id = some (.tableFull 0) ∧
        (crowded.register "alice" "secret").1 = .error (.tableFull 0)) ∧
      (stalled.store.backing.AllOrNone ∧
        (stalled.register "alice" "secret").1 = .error (.storage .notDirectory) ∧
        (stalled.register "alice" "secret").2.store.backing.content = none) ∧
      (source.FailsAsEntropy ∧
        (service.register "alice" "secret").1 ≠ .error .wrongPassword) ∧
      (service.register "alice" "secret").1 = .error (.entropy "dry") ∧
      ∃ account : Account, account.username = "alice" ∧ account.session = "" ∧
        (service.register "alice" "secret").2.store.rows = [account] ∧
        (service.register "alice" "secret").2.store.backing.content = some account.encode := by
  intro source crowded service stalled
  have blank : (service.earlyFaults "alice" "").findSome? id = some .emptyPassword := by
    decide +kernel
  have clear : (service.earlyFaults "alice" "secret").findSome? id = none := by decide +kernel
  have clearCrowded : (crowded.earlyFaults "alice" "secret").findSome? id = none := by
    decide +kernel
  have clearStalled : (stalled.earlyFaults "alice" "secret").findSome? id = none := by
    decide +kernel
  have full : crowded.lateFaults.findSome? id = some (.tableFull 0) := by decide +kernel
  have unwritten : stalled.lateFaults.findSome? id = some (.storage .notDirectory) := by
    decide +kernel
  have roomy : service.lateFaults.findSome? id = none := by decide +kernel
  have honest : source.FailsAsEntropy := Entropy.of_script_fails_as_entropy _
  have allOrNone : stalled.store.backing.AllOrNone := rfl
  obtain ⟨_, early, _⟩ := registration_decided_by_first_fault service "alice" ""
  obtain ⟨_, _, late, _⟩ := registration_decided_by_first_fault crowded "alice" "secret"
  obtain ⟨_, _, missed, _⟩ := registration_decided_by_first_fault stalled "alice" "secret"
  obtain ⟨quiet, _, _, added, _⟩ := registration_decided_by_first_fault service "alice" "secret"
  obtain ⟨failed, _, backing, stayed, _, kept⟩ := missed _ clearStalled unwritten
  have content : (stalled.register "alice" "secret").2.store.backing.content = none := by
    rw [stayed]
    exact (kept allOrNone).content_eq
  obtain ⟨salt, session, journal, _, _, _, _, left, dried, _⟩ := added clear roomy
  obtain ⟨outcome, rfl⟩ := dried (.entropy "dry") rfl
  exact ⟨⟨blank, (early _ blank).1⟩, ⟨full, (late _ clearCrowded full).1⟩,
    ⟨allOrNone, failed, content⟩, ⟨honest, (quiet honest).1⟩, outcome, _, rfl, rfl,
    congrArg (fun left => left.store.rows) left,
    congrArg (fun left => left.store.backing.content) left⟩

end Service

end Accounts
