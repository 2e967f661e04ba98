import Accounts.Proofs.Reopening
import Accounts.Proofs.SessionId
import Accounts.Proofs.SessionLookup
import Accounts.Service

/-!
# Calls of the service

What a login and a registration can come to, with the state they leave. A
registration either leaves the accounts alone or adds one and logs it in.
-/

namespace Accounts

/-- The key that is kept is the key of this password. -/
def Account.HasPassword (account : Account) (password : String) : Prop :=
  Pbkdf2.passwordHash (utf8 password) account.salt.toList account.iterations =
    account.passwordHash

namespace Service

inductive LoginCase (service : Service) (username password : String) :
    Except Failure Login × Service → Prop where
  | missing (reason : username = "" ∨ password = "") :
      LoginCase service username password (.error .missingCredentials, service)
  | unknown (journal : List Event) (given : username ≠ "" ∧ password ≠ "")
      (absent : service.store.findByUsername username = none) :
      LoginCase service username password
        (.error .accountNotFound, { service with store := { service.store with journal } })
  | wrong (journal : List Event) (account : Account) (given : username ≠ "" ∧ password ≠ "")
      (found : service.store.findByUsername username = some account)
      (refuted : ¬ account.HasPassword password) :
      LoginCase service username password
        (.error .wrongPassword, { service with store := { service.store with journal } })
  | dry (journal : List Event) (account : Account) (given : username ≠ "" ∧ password ≠ "")
      (found : service.store.findByUsername username = some account)
      (proved : account.HasPassword password) (failure : Failure)
      (failed : (service.entropy.draw service.settings.sessionEntropy).1 = .error failure) :
      LoginCase service username password
        (.error failure, { service with
          store := { service.store with journal }
          entropy := (service.entropy.draw service.settings.sessionEntropy).2 })
  | signedIn (journal : List Event) (account : Account)
      (given : username ≠ "" ∧ password ≠ "")
      (found : service.store.findByUsername username = some account)
      (proved : account.HasPassword password)
      (bytes : Vector Byte service.settings.sessionEntropy)
      (drawn : (service.entropy.draw service.settings.sessionEntropy).1 = .ok bytes) :
      LoginCase service username password
        (.ok ⟨username, sessionOf bytes.toList, service.settings.cookieName⟩, { service with
          store := { service.store with
            journal
            rows := Store.replaceSession username (sessionOf bytes.toList) service.store.rows }
          entropy := (service.entropy.draw service.settings.sessionEntropy).2 })

theorem found_username {store : Store} {username : String} {account : Account}
    (found : store.findByUsername username = some account) :
    account.username = username ∧ account ∈ store.rows := by
  unfold Store.findByUsername at found
  split at found
  · simp at found
  · exact ⟨by simpa using List.find?_some found, List.mem_of_find?_eq_some found⟩

theorem login_case (service : Service) (username password : String) :
    LoginCase service username password (service.login username password) := by
  unfold login
  split
  · rename_i empty
    exact .missing (by simpa using empty)
  · rename_i given
    have given : username ≠ "" ∧ password ≠ "" := by simpa using given
    cases found : service.store.findByUsername username with
    | none => exact .unknown _ given found
    | some account =>
        simp only [derive, same_bytes_iff, Vector.toList_inj]
        split
        · rename_i proved
          unfold startSession
          have outcome := issuing service.entropy service.settings.sessionEntropy
          simp only [note]
          generalize issueSession service.entropy service.settings.sessionEntropy = result
            at outcome ⊢
          cases outcome with
          | dry failure failed => exact .dry _ account given found proved failure failed
          | issued bytes drawn =>
              simp only
              have full := session_of_size bytes.toList
              have change := (service.store.note (.keyDerived account.iterations)).session_change
                username (sessionOf bytes.toList)
              generalize (service.store.note (.keyDerived account.iterations)).setSession
                username (sessionOf bytes.toList) = result at change ⊢
              cases change with
              | refused journal reason =>
                  exfalso
                  obtain ⟨name, member⟩ := found_username found
                  rcases reason with long | absent
                  · omega
                  · exact absent (List.mem_map.mpr ⟨account, member, name⟩)
              | taken fits member =>
                  rw [(found_username found).1]
                  exact .signedIn _ account given found proved bytes drawn
        · rename_i refuted
          exact .wrong _ account given found refuted

/-- A login with the right password fails only for want of random bytes. -/
theorem LoginCase.of_right_password {service : Service} {username password : String}
    {account : Account} {result : Except Failure Login × Service}
    (ended : LoginCase service username password result)
    (found : service.store.findByUsername username = some account) (given : password ≠ "")
    (proved : account.HasPassword password) :
    let drawn := service.entropy.draw service.settings.sessionEntropy
    (∃ failure journal, drawn.1 = .error failure ∧
      result = (.error failure, { service with
        store := { service.store with journal }
        entropy := drawn.2 })) ∨
      ∃ bytes journal, drawn.1 = .ok bytes ∧
        result =
          (.ok ⟨username, sessionOf bytes.toList, service.settings.cookieName⟩, { service with
            store := { service.store with
              journal
              rows := Store.replaceSession username (sessionOf bytes.toList) service.store.rows }
            entropy := drawn.2 }) := by
  cases ended with
  | missing reason =>
      rcases reason with rfl | empty
      · simp [Store.findByUsername] at found
      · exact absurd empty given
  | unknown journal given absent => simp [absent] at found
  | wrong journal other given otherFound refuted =>
      rw [found, Option.some_inj] at otherFound
      exact absurd (otherFound ▸ proved) refuted
  | dry journal other given otherFound proved failure failed =>
      exact .inl ⟨failure, journal, failed, rfl⟩
  | signedIn journal other given otherFound proved bytes drawn =>
      exact .inr ⟨bytes, journal, drawn, rfl⟩

theorem check_form_ok {username password : String} :
    checkForm username password = .ok () ↔
      checkUsername username = .ok () ∧ password ≠ "" ∧
        password.utf8ByteSize ≤ maxPasswordBytes := by
  unfold checkForm
  split
  · rename_i empty
    have empty : username = "" ∧ password = "" := by simpa using empty
    simp [empty]
  · cases checkUsername username with
    | error failure => simp
    | ok =>
        simp only
        split_ifs with blank long
        · simp_all
        · simp [Nat.not_le.mpr long]
        · simp_all

/-- The account that a registration makes with a salt. -/
def newAccount (service : Service) (username password : String) (salt : Salt) : Account :=
  .new username salt
    (Pbkdf2.passwordHash (utf8 password) salt.toList service.settings.iterations)
    service.settings.iterations

theorem new_account_has_password (service : Service) (username password : String) (salt : Salt) :
    (service.newAccount username password salt).HasPassword password := rfl

/-- The service right after an account was added, with its salt drawn. -/
def enrol (service : Service) (account : Account) (journal : List Event) : Service :=
  { service with
    store := { service.store with
      journal
      rows := service.store.rows ++ [account]
      backing := { service.store.backing with
        content := some (service.store.backing.bytes ++ account.encode)
        tried := true } }
    entropy := (service.entropy.draw 16).2 }

/-- The ways in which a registration ends. It is refused before random bytes for a session are
asked for, or it goes on to the login. -/
inductive RegisterCase (service : Service) (username password : String) :
    Except Failure Login × Service → Prop where
  | refused (failure : Failure) (journal : List Event) (content : Option Bytes) (tried : Bool)
      (entropy : Entropy)
      (kept : service.store.backing.AllOrNone → content = service.store.backing.content)
      (early : entropy.asked = service.entropy.asked ∨
        entropy.asked = service.entropy.asked ++ [16]) :
      RegisterCase service username password
        (.error failure, { service with
          store := { service.store with
            journal
            backing := { service.store.backing with content, tried } }
          entropy })
  | enrolled (journal : List Event) (salt : Salt) (drawn : (service.entropy.draw 16).1 = .ok salt)
      (checked : checkUsername username = .ok ()) (given : password ≠ "")
      (fresh : username ∉ service.store.usernames) {result : Except Failure Login × Service}
      (signIn : LoginCase
        (service.enrol (service.newAccount username password salt) journal)
        username password result) :
      RegisterCase service username password result

theorem register_case (service : Service) (username password : String) :
    RegisterCase service username password (service.register username password) := by
  unfold register
  cases form : checkForm username password with
  | error failure =>
      exact .refused failure service.store.journal service.store.backing.content
        service.store.backing.tried service.entropy (fun _ => rfl) (.inl rfl)
  | ok =>
      obtain ⟨checked, given, _⟩ := check_form_ok.mp form
      simp only
      split
      · exact .refused _ _ service.store.backing.content service.store.backing.tried
          service.entropy (fun _ => rfl) (.inl rfl)
      · have drawn : service.entropy.draw 16 =
            ((service.entropy.draw 16).1, (service.entropy.draw 16).2) := rfl
        have asked : (service.entropy.draw 16).2.asked = service.entropy.asked ++ [16] := rfl
        cases salted : (service.entropy.draw 16).1 with
        | error failure =>
            rw [drawn, salted]
            exact .refused failure service.store.journal service.store.backing.content
              service.store.backing.tried _ (fun _ => rfl) (.inr asked)
        | ok salt =>
            rw [drawn, salted]
            simp only [derive, note]
            have outcome := (service.store.note (.keyDerived service.settings.iterations)).insertion
              username salt
              (Pbkdf2.passwordHash (utf8 password) salt.toList service.settings.iterations)
              service.settings.iterations
            generalize Store.insert _ username salt _ _ = result at outcome ⊢
            cases outcome with
            | refused failure journal content tried kept =>
                exact .refused failure journal content tried _ kept (.inr asked)
            | accepted journal checked room fresh =>
                exact .enrolled _ salt salted checked given fresh
                  (login_case (service.enrol (service.newAccount username password salt) _)
                    username password)

def rowsWithout (visitor : Visitor) (rows : List Account) : List Account :=
  match visitor.username with
  | none => rows
  | some username => Store.replaceSession username "" rows

theorem logout_case (service : Service) (visitor : Visitor) :
    ∃ journal, service.logout visitor =
      (.clear service.settings.cookieName, .anonymous, { service with
        store := { service.store with
          journal
          rows := rowsWithout visitor service.store.rows } }) := by
  unfold logout rowsWithout
  cases visitor.username with
  | none => exact ⟨service.store.journal, rfl⟩
  | some username =>
      simp only
      have change := service.store.session_change username ""
      generalize service.store.setSession username "" = result at change ⊢
      cases change with
      | refused journal reason =>
          refine ⟨journal, ?_⟩
          rcases reason with long | absent
          · exact absurd long (by decide)
          · rw [Store.replace_session_of_not_mem absent]
      | taken fits member => exact ⟨_, rfl⟩

inductive Action where
  | register (username password : String)
  | login (username password : String)
  | resolve (cookie : Option String)
  | logout (visitor : Visitor)
  | appendsFail (fault : Option Fault)
  deriving DecidableEq, Repr

inductive Answer where
  | signIn (outcome : Except Failure Login)
  | visitor (visitor : Visitor)
  | signOut (cookie : Cookie) (visitor : Visitor)
  | nothing

def act (service : Service) : Action → Answer × Service
  | .register username password =>
      let (outcome, service) := service.register username password
      (.signIn outcome, service)
  | .login username password =>
      let (outcome, service) := service.login username password
      (.signIn outcome, service)
  | .resolve cookie => (.visitor (service.resolve cookie), service)
  | .logout visitor =>
      let (cookie, visitor, service) := service.logout visitor
      (.signOut cookie visitor, service)
  | .appendsFail appendFault =>
      (.nothing, { service with
        store := { service.store with backing := { service.store.backing with appendFault } } })

def after (service : Service) (actions : List Action) : Service :=
  actions.foldl (fun service action => (service.act action).2) service

def trace : Service → List Action → List (Action × Answer)
  | _, [] => []
  | service, action :: actions =>
      (action, (service.act action).1) :: trace (service.act action).2 actions

theorem after_append (service : Service) (actions later : List Action) :
    service.after (actions ++ later) = (service.after actions).after later :=
  List.foldl_append

theorem trace_append (service : Service) (actions later : List Action) :
    service.trace (actions ++ later) =
      service.trace actions ++ (service.after actions).trace later := by
  induction actions generalizing service with
  | nil => rfl
  | cons action actions ih => rw [List.cons_append, trace, trace, ih, List.cons_append]; rfl

theorem LoginCase.grown {service : Service} {username password : String}
    {result : Except Failure Login × Service}
    (ended : LoginCase service username password result) :
    service.store.Grown result.2.store [] := by
  cases ended with
  | missing reason => exact .unchanged rfl rfl rfl
  | unknown journal given absent => exact .unchanged rfl rfl rfl
  | wrong journal account given found refuted => exact .unchanged rfl rfl rfl
  | dry journal account given found proved failure failed => exact .unchanged rfl rfl rfl
  | signedIn journal account given found proved bytes drawn =>
      exact .unchanged rfl rfl (Store.replace_session_credentials _ _ _)

theorem LoginCase.grown_enrolled {service : Service} {username password : String} {salt : Salt}
    {journal : List Event} {result : Except Failure Login × Service}
    (checked : checkUsername username = .ok ()) (fresh : username ∉ service.store.usernames)
    (signIn : LoginCase (service.enrol (service.newAccount username password salt) journal)
      username password result) :
    service.store.Grown result.2.store [service.newAccount username password salt] := by
  have enrolled : (service.newAccount username password salt).Enrolled := ⟨checked, rfl⟩
  have inserted : service.store.Grown
      (service.enrol (service.newAccount username password salt) journal).store
      [service.newAccount username password salt] :=
    .inserted rfl rfl rfl rfl rfl enrolled fresh
  exact inserted.trans signIn.grown

theorem act_grown (service : Service) (action : Action) :
    ∃ added, service.store.Grown (service.act action).2.store added := by
  cases action with
  | register username password =>
      simp only [act]
      have ended := service.register_case username password
      generalize service.register username password = result at ended ⊢
      cases ended with
      | refused failure journal content tried entropy kept early =>
          exact ⟨[], .refused rfl rfl rfl kept rfl⟩
      | enrolled journal salt drawn checked given fresh signIn =>
          exact ⟨_, signIn.grown_enrolled checked fresh⟩
  | login username password => exact ⟨[], (service.login_case username password).grown⟩
  | resolve cookie => exact ⟨[], .unchanged rfl rfl rfl⟩
  | logout visitor =>
      obtain ⟨journal, ended⟩ := service.logout_case visitor
      refine ⟨[], .unchanged ?_ ?_ ?_⟩ <;> simp only [act, ended]
      unfold rowsWithout
      split
      · rfl
      · exact Store.replace_session_credentials _ _ _
  | appendsFail fault => exact ⟨[], .refused rfl rfl rfl (fun _ => rfl) rfl⟩

theorem after_grown (service : Service) (actions : List Action) :
    ∃ added, service.store.Grown (service.after actions).store added := by
  induction actions generalizing service with
  | nil => exact ⟨[], .unchanged rfl rfl rfl⟩
  | cons action actions ih =>
      obtain ⟨first, earlier⟩ := service.act_grown action
      obtain ⟨second, later⟩ := ih (service.act action).2
      exact ⟨first ++ second, earlier.trans later⟩

end Service

end Accounts
