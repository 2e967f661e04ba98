import Accounts.Proofs.AppendOnly
import Accounts.Proofs.SessionLife

/-!
# The checks of a sign-in

After a login the program asks whether the new session leads to anybody, and after a logout
whether it still does. The answer to the first question is always yes. The answer to the
second is yes exactly if the id that was issued is the session of a second account, which only
the records can have put there. Otherwise the id leads to the account that signed in, and its
row is the one that loses the session again.
-/

namespace Accounts

namespace Sessions

/-- An account of another name has the session. -/
def Shared (sessions : Sessions) (username id : String) : Prop :=
  ∃ name ∈ sessions.names, name ≠ username ∧ sessions.session name = id

section

variable {sessions : Sessions} {username name id : String}

theorem authenticated_iff (issued : id ≠ "") :
    (sessions.lookup (some id)).isAuthenticated = true ↔
      ∃ name ∈ sessions.names, sessions.session name = id := by
  simp [Visitor.isAuthenticated, lookup, issued]

/-- A logout takes the session from one account only. -/
theorem authenticated_after_dismissal_iff (issued : id ≠ "") :
    ((sessions.dismiss ⟨some username⟩).lookup (some id)).isAuthenticated = true ↔
      sessions.Shared username id := by
  rw [authenticated_iff issued]
  constructor
  · rintro ⟨name, member, session⟩
    by_cases own : name = username
    · subst own
      exact absurd (session.symm.trans (give_self _ _ _)) issued
    · exact ⟨name, member, own, (give_other _ _ own).symm.trans session⟩
  · rintro ⟨name, member, other, session⟩
    exact ⟨name, member, (give_other _ _ other).trans session⟩

theorem lookup_given (issued : id ≠ "") (known : username ∈ sessions.names)
    (alone : ¬ sessions.Shared username id) :
    (sessions.give username id).lookup (some id) = ⟨some username⟩ := by
  have found : ((sessions.give username id).lookup (some id)).isAuthenticated = true :=
    lookup_is_authenticated known issued (give_self _ _ _)
  obtain ⟨name, answer⟩ := Option.isSome_iff_exists.mp found
  obtain ⟨member, session⟩ := lookup_some issued (congrArg Visitor.mk answer)
  by_cases own : name = username
  · rw [own] at answer
    exact congrArg Visitor.mk answer
  · exact absurd ⟨name, member, own, (give_other _ _ own).symm.trans session⟩ alone

/-- Whichever account the id leads to, there is a second one with it exactly if another account
than the one it was issued to had it before. -/
theorem shared_after_giving_iff (known : username ∈ sessions.names) (member : name ∈ sessions.names)
    (session : (sessions.give username id).session name = id) :
    (sessions.give username id).Shared name id ↔ sessions.Shared username id := by
  by_cases own : name = username
  · subst own
    constructor
    · rintro ⟨other, place, unlike, same⟩
      exact ⟨other, place, unlike, (give_other _ _ unlike).symm.trans same⟩
    · rintro ⟨other, place, unlike, same⟩
      exact ⟨other, place, unlike, (give_other _ _ unlike).trans same⟩
  · have before : sessions.Shared username id :=
      ⟨name, member, own, (give_other _ _ own).symm.trans session⟩
    exact iff_of_true ⟨username, known, Ne.symm own, give_self _ _ _⟩ before

end

end Sessions

theorem Store.shared_iff {store : Store} {username id : String}
    (distinct : store.usernames.Nodup) :
    store.sessions.Shared username id ↔
      ∃ row ∈ store.rows, row.username ≠ username ∧ row.session = id := by
  constructor
  · rintro ⟨name, member, other, session⟩
    obtain ⟨row, place, rfl⟩ := List.mem_map.mp member
    exact ⟨row, place, other, (session_in_of_mem distinct place).symm.trans session⟩
  · rintro ⟨row, place, other, session⟩
    exact ⟨row.username, List.mem_map_of_mem place, other,
      (session_in_of_mem distinct place).trans session⟩

namespace Service

/-- What is left when an account has been given the session of a login. -/
structure SignedIn (before : Service) (username : String) (login : Login) (after : Service) :
    Prop where
  owner : login.username = username
  known : username ∈ before.store.usernames
  issued : login.session ≠ ""
  settings_eq : after.settings = before.settings
  store_eq : ∃ journal, after.store = { before.store with
    journal, rows := Store.replaceSession username login.session before.store.rows }

theorem signed_in_of_login {service : Service} {username password : String} {login : Login}
    (signed : (service.login username password).1 = .ok login) :
    service.SignedIn username login (service.login username password).2 := by
  have ended := service.login_case username password
  generalize service.login username password = result at ended signed ⊢
  cases ended with
  | missing reason => simp at signed
  | unknown journal given absent => simp at signed
  | wrong journal account given found refuted => simp at signed
  | dry journal account given found proved failure failed => simp at signed
  | signedIn journal account given found proved bytes drawn =>
      obtain rfl := Except.ok.inj signed
      obtain ⟨named, member⟩ := found_username found
      exact ⟨rfl, List.mem_map.mpr ⟨account, member, named⟩, session_of_ne_empty bytes.toList, rfl,
        journal, rfl⟩

namespace SignedIn

variable {before after : Service} {username : String} {login : Login}

theorem rows_eq (signedIn : before.SignedIn username login after)
    (distinct : before.store.usernames.Nodup) :
    after.store.rows = before.store.rows.map fun row =>
      if row.username = username then { row with session := login.session } else row := by
  obtain ⟨journal, changed⟩ := signedIn.store_eq
  rw [changed]
  exact Store.replace_session_eq_map username login.session distinct

theorem distinct (signedIn : before.SignedIn username login after)
    (distinct : before.store.usernames.Nodup) : after.store.usernames.Nodup := by
  obtain ⟨journal, changed⟩ := signedIn.store_eq
  have names := Store.usernames_of_credentials
    (Store.replace_session_credentials username login.session before.store.rows)
  rw [changed, Store.usernames, names]
  exact distinct

theorem sessions_eq (signedIn : before.SignedIn username login after) :
    after.store.sessions = before.store.sessions.give username login.session := by
  obtain ⟨journal, changed⟩ := signedIn.store_eq
  rw [changed]
  exact Store.sessions_replace_session before.store login.session (.inl signedIn.known) journal

theorem found (signedIn : before.SignedIn username login after)
    (distinct : before.store.usernames.Nodup) :
    (after.resolve (some login.session)).isAuthenticated = true := by
  rw [resolve_eq_lookup (signedIn.distinct distinct), signedIn.sessions_eq]
  exact Sessions.lookup_is_authenticated signedIn.known signedIn.issued
    (Sessions.give_self _ _ _)

theorem resolves_to_owner (signedIn : before.SignedIn username login after)
    (distinct : before.store.usernames.Nodup)
    (alone : ¬ before.store.sessions.Shared username login.session) :
    after.resolve (some login.session) = ⟨some username⟩ := by
  rw [resolve_eq_lookup (signedIn.distinct distinct), signedIn.sessions_eq]
  exact Sessions.lookup_given signedIn.issued signedIn.known alone

theorem still_resolves_iff (signedIn : before.SignedIn username login after)
    (distinct : before.store.usernames.Nodup) :
    let left := (after.logout (after.resolve (some login.session))).2.2
    (left.resolve (some login.session)).isAuthenticated = true ↔
      before.store.sessions.Shared username login.session := by
  intro left
  have now := signedIn.distinct distinct
  obtain ⟨name, answer⟩ := Option.isSome_iff_exists.mp (signedIn.found distinct)
  have visitor : after.resolve (some login.session) = ⟨some name⟩ := congrArg Visitor.mk answer
  have lookup := (resolve_eq_lookup now (some login.session)).symm.trans visitor
  rw [signedIn.sessions_eq] at lookup
  obtain ⟨member, session⟩ := Sessions.lookup_some signedIn.issued lookup
  have leftDistinct : left.store.usernames.Nodup := by
    obtain ⟨added, grown⟩ := after.act_grown (.logout (after.resolve (some login.session)))
    exact grown.distinct now
  rw [resolve_eq_lookup leftDistinct, logout_sessions, visitor, signedIn.sessions_eq,
    Sessions.authenticated_after_dismissal_iff signedIn.issued]
  exact Sessions.shared_after_giving_iff signedIn.known member session

end SignedIn

/-- What is shown of a login whose session leads to somebody. -/
def greeting (login : Login) : List String :=
  [cookieLine login.cookie, "session resolves to " ++ login.username]

section

variable {service : Service} {username password : String} {login : Login}

theorem login_reply_of_login (signed : (service.login username password).1 = .ok login)
    (logout : Bool) :
    service.loginReply username (.ok password) logout =
      (service.login username password).2.sessionReply username login logout := by
  simp only [loginReply]
  generalize service.login username password = result at signed ⊢
  obtain ⟨outcome, after⟩ := result
  obtain rfl : outcome = .ok login := signed
  rfl

theorem session_reply_of_found
    (found : (service.resolve (some login.session)).isAuthenticated = true) (username : String)
    (logout : Bool) :
    service.sessionReply username login logout =
      if logout then service.logoutReply username login (service.resolve (some login.session))
        (greeting login)
      else (.answer (greeting login), service) := by
  simp only [sessionReply, found, if_true]
  rfl

theorem logout_reply_eq (service : Service) (username : String) (login : Login)
    (visitor : Visitor) (lines : List String) :
    let left := (service.logout visitor).2.2
    let farewell := lines ++ [cookieLine (.clear service.settings.cookieName)]
    service.logoutReply username login visitor lines =
      (if (left.resolve (some login.session)).isAuthenticated then
        ⟨farewell, none, some (.stillResolved username)⟩
      else .answer (farewell ++ ["session invalidated"]), left) := by
  intro left farewell
  obtain ⟨journal, ended⟩ := service.logout_case visitor
  simp only [logoutReply, left, farewell, ended]
  split
  · rfl
  · rfl

end

namespace SignedIn

variable {before after : Service} {username : String} {login : Login}

/-- Of the two questions only the second can be answered in the wrong way. -/
theorem complaint_cases (signedIn : before.SignedIn username login after)
    (distinct : before.store.usernames.Nodup) (logout : Bool) :
    let complaint := (after.sessionReply username login logout).1.complaint
    complaint = none ∧ ¬ (logout = true ∧ before.store.sessions.Shared username login.session) ∨
      complaint = some (.stillResolved username) ∧ logout = true ∧
        before.store.sessions.Shared username login.session := by
  have stays := signedIn.still_resolves_iff distinct
  rw [session_reply_of_found (signedIn.found distinct)]
  cases logout with
  | false => exact .inl ⟨rfl, by simp⟩
  | true =>
      simp only [if_true, logout_reply_eq]
      split
      · rename_i still
        exact .inr ⟨rfl, trivial, stays.mp still⟩
      · rename_i gone
        exact .inl ⟨rfl, fun shared => gone (stays.mpr shared.2)⟩

/-- When nobody else has the id, both answers are right, and the account is left with what the
last of the two calls gave it. -/
theorem session_reply_alone (signedIn : before.SignedIn username login after)
    (distinct : before.store.usernames.Nodup)
    (alone : ¬ before.store.sessions.Shared username login.session) (logout : Bool) :
    let ended := after.sessionReply username login logout
    ended.1 = .answer ([cookieLine login.cookie, "session resolves to " ++ username] ++
        if logout then [cookieLine (.clear before.settings.cookieName), "session invalidated"]
        else []) ∧
      ended.2.store.rows = before.store.rows.map fun row =>
        if row.username = username then
          { row with session := if logout then "" else login.session }
        else row := by
  intro ended
  have greeted : greeting login =
      [cookieLine login.cookie, "session resolves to " ++ username] := by
    rw [greeting, signedIn.owner]
  have reply : ended = _ := session_reply_of_found (signedIn.found distinct) username logout
  cases logout with
  | false =>
      rw [reply]
      exact ⟨congrArg Reply.answer (greeted.trans (List.append_nil _).symm),
        signedIn.rows_eq distinct⟩
  | true =>
      have gone := mt (signedIn.still_resolves_iff distinct).mp alone
      rw [reply, if_pos rfl, logout_reply_eq, if_neg gone, signedIn.settings_eq, greeted]
      refine ⟨congrArg Reply.answer (List.append_assoc _ _ _), ?_⟩
      obtain ⟨journal, left⟩ := after.logout_case (after.resolve (some login.session))
      rw [left, rowsWithout, signedIn.resolves_to_owner distinct alone]
      simp only
      rw [Store.replace_session_eq_map username "" (signedIn.distinct distinct),
        signedIn.rows_eq distinct, List.map_map]
      apply List.map_congr_left
      intro row member
      by_cases own : row.username = username
      · simp [own]
      · simp [own]

end SignedIn

end Service

/-- The two checks of a login that succeeds, over any content of the records and whether its
password was given or typed: the first one never fails, and the second one only where the records
have the issued id as the session of another account. Without such a record the session leads to the
account that was signed in, and every other row is as it was loaded. -/
theorem Command.login_checks_hold (config : Config) (backing : Backing) (entropy : Entropy)
    (username password : String) {login : Login}
    (signed : ((config.service backing entropy).login username password).1 = .ok login) :
    let opened := config.service backing entropy
    let after := (opened.login username password).2
    (opened.store.usernames.Nodup ∧ username ∈ opened.store.usernames) ∧
      (after.resolve (some login.session)).isAuthenticated = true ∧
      (∀ (prompt : Prompt) given logout, prompt.password false given = .ok password →
        let outcome := (Command.login username given logout).run config backing entropy prompt
        outcome.reply = (opened.loginReply username (.ok password) logout).1 ∧
          (∀ name, outcome.reply.complaint ≠ some (.unresolved name)) ∧
          (outcome.reply.complaint = some (.stillResolved username) ↔ logout = true ∧
            ∃ row ∈ opened.store.rows, row.username ≠ username ∧ row.session = login.session)) ∧
      ((∀ row ∈ opened.store.rows, row.username ≠ username → row.session ≠ login.session) →
        after.resolve (some login.session) = ⟨some username⟩ ∧ login.username = username ∧
          ∀ logout,
            let ended := opened.loginReply username (.ok password) logout
            ended.1 = .answer ([cookieLine login.cookie, "session resolves to " ++ username] ++
                if logout then [cookieLine (.clear config.cookieName), "session invalidated"]
                else []) ∧
              ended.2.store.rows = opened.store.rows.map fun row =>
                if row.username = username then
                  { row with session := if logout then "" else login.session }
                else row) := by
  intro opened after
  have distinct : opened.store.usernames.Nodup := Store.load_nodup backing config.capacity.toNat
  have signedIn : opened.SignedIn username login after := Service.signed_in_of_login signed
  have replies := Service.login_reply_of_login signed
  refine ⟨⟨distinct, signedIn.known⟩, signedIn.found distinct, ?_, ?_⟩
  · intro prompt given logout read outcome
    have asked : outcome.reply = (opened.loginReply username (.ok password) logout).1 :=
      congrArg (fun password => (opened.loginReply username password logout).1) read
    have reply : outcome.reply = (after.sessionReply username login logout).1 :=
      asked.trans (congrArg Prod.fst (replies logout))
    refine ⟨asked, ?_⟩
    rw [reply, ← Store.shared_iff distinct]
    rcases signedIn.complaint_cases distinct logout with ⟨quiet, apart⟩ | ⟨stays, both⟩
    · exact ⟨fun name => by simp [quiet], by simp [quiet, apart]⟩
    · exact ⟨fun name => by simp [stays], iff_of_true stays both⟩
  · intro fresh
    have alone : ¬ opened.store.sessions.Shared username login.session := by
      rw [Store.shared_iff distinct]
      rintro ⟨row, member, other, session⟩
      exact fresh row member other session
    refine ⟨signedIn.resolves_to_owner distinct alone, signedIn.owner, ?_⟩
    intro logout ended
    have same : ended = after.sessionReply username login logout := replies logout
    rw [same]
    exact signedIn.session_reply_alone distinct alone logout

/-- The records of eve, who is signed in, and of alice, whose password is known. -/
def guestBacking (session : String) : Backing :=
  let salt : Salt := Vector.replicate 16 7
  .sound "users" (some (
    Account.encode ⟨"eve", Vector.replicate 16 1, Vector.replicate 32 2, 1000, session⟩ ++
    Account.encode ⟨"alice", salt, Pbkdf2.passwordHash (utf8 "secret") salt.toList 1, 1, "old"⟩))

/-- In the second table eve has the id that alice is going to be given. -/
theorem Command.alice_signs_in_beside_eve :
    let id := "6e340b9cffb37a989ca544e6bb780a2c78901d3fb33738768511a30617afa01d"
    let source : Entropy := .ofSequence fun index => UInt8.ofNat index
    let config : Config := { Config.default with sessionEntropy := 1 }
    let opened := config.service (guestBacking "token") source
    let ended := opened.loginReply "alice" (.ok "secret") true
    (opened.login "alice" "secret").1 = .ok ⟨"alice", id, "session"⟩ ∧
      (∀ row ∈ opened.store.rows, row.username ≠ "alice" → row.session ≠ id) ∧
      (opened.login "alice" "secret").2.resolve (some id) = ⟨some "alice"⟩ ∧
      ended.1.lines.getLast? = some "session invalidated" ∧
      ended.2.store.rows.map (fun row => (row.username, row.session)) =
        [("eve", "token"), ("alice", "")] ∧
      ((login "alice" none true).run config (guestBacking id) source
          ⟨fun _ => .ok "secret"⟩).reply.complaint = some (.stillResolved "alice") := by
  intro id source config opened ended
  have signed : (opened.login "alice" "secret").1 = .ok ⟨"alice", id, "session"⟩ := by
    decide +kernel
  have fresh : ∀ row ∈ opened.store.rows, row.username ≠ "alice" → row.session ≠ id := by
    decide +kernel
  have again : ((config.service (guestBacking id) source).login "alice" "secret").1 =
      .ok ⟨"alice", id, "session"⟩ := by decide +kernel
  have taken : ∃ row ∈ (config.service (guestBacking id) source).store.rows,
      row.username ≠ "alice" ∧ row.session = id := by decide +kernel
  obtain ⟨_, _, _, alone⟩ :=
    login_checks_hold config (guestBacking "token") source "alice" "secret" signed
  obtain ⟨visitor, _, replies⟩ := alone fresh
  obtain ⟨_, _, complaints, _⟩ :=
    login_checks_hold config (guestBacking id) source "alice" "secret" again
  obtain ⟨_, _, stays⟩ := complaints ⟨fun _ => .ok "secret"⟩ none true rfl
  refine ⟨signed, fresh, visitor, ?_, ?_, stays.mpr ⟨rfl, taken⟩⟩
  · rw [(replies true).1]
    rfl
  · rw [(replies true).2]
    decide +kernel

end Accounts
