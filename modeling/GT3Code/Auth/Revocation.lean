import GT3Code.Auth.TokenValidity

/-! # Revoked sessions

A row that is revoked stays revoked under its session id, as no call clears it and no
session is issued under an id that is there.
-/

namespace GT3Code.Auth

open GT3Code.Base GT3Code.Base.Json

def World.Revoked (world : World) (id : AuthSessionId) : Prop :=
  ∃ row, world.sessions.getById id = some row ∧ row.revokedAt ≠ none

def World.Refuses (runtime : TokenRuntime) (id : AuthSessionId) (world : World) : Prop :=
  ∀ token verified, verify runtime world.now world.sessions token = .ok verified ∨
    verifyWebSocketToken runtime world.now world.sessions token = .ok verified →
      verified.sessionId ≠ id

variable {runtime : TokenRuntime} {world next : World} {id : AuthSessionId}

theorem World.Revoked.refuses (lawful : runtime.Lawful) (h : world.Revoked id) :
    world.Refuses runtime id := by
  obtain ⟨row, hrow, hrevoked⟩ := h
  rintro token verified (hverify | hverify) rfl
  · obtain ⟨_, _, claims, other, _, _, _, _, hother, hnone, rfl⟩ :=
      (verify_eq_ok_iff lawful).mp hverify
    cases hrow.symm.trans hother
    exact hrevoked hnone
  · obtain ⟨_, _, claims, other, _, _, _, _, hother, _, hnone, rfl⟩ :=
      (verifyWebSocketToken_eq_ok_iff lawful).mp hverify
    have hid : some other.sessionId = some claims.sid := (KeyedTable.mem_of_lookup hother).2
    rw [Option.some.inj hid, hother] at hrow
    cases hrow
    exact hrevoked hnone

theorem revoked_revokeWhere (h : world.Revoked id) (selected : AuthSessionId → Bool)
    (revokedAt : Int) :
    ∃ row, (world.sessions.revokeWhere selected revokedAt).getById id = some row ∧
      row.revokedAt ≠ none := by
  obtain ⟨row, hrow, hrevoked⟩ := h
  rw [getById_revokeWhere, hrow]
  refine ⟨_, rfl, ?_⟩
  dsimp only
  split
  · exact nofun
  · exact hrevoked

theorem World.Revoked.step {call : Call} (h : world.Revoked id)
    (hstep : step runtime world call = some next) : next.Revoked id := by
  cases call with
  | issue sessionId input =>
    simp only [Auth.step] at hstep
    cases hissue : Auth.issue runtime world.now sessionId input world.sessions with
    | error message =>
      simp only [hissue] at hstep
      cases hstep
      exact h
    | ok result =>
      simp only [hissue] at hstep
      cases hstep
      obtain ⟨issuance, rfl, hfresh, hstored, -⟩ := issue_eq_ok hissue
      obtain ⟨row, hrow, hrevoked⟩ := h
      have hne : result.1.sessionId ≠ id := by
        rintro rfl
        cases hfresh.symm.trans hrow
      refine ⟨row, ?_, hrevoked⟩
      rw [hstored]
      exact (getById_put_of_ne hne world.sessions).trans hrow
  | revoke | revokeAllExcept =>
    cases hstep
    exact revoked_revokeWhere h _ _
  | issueWebSocketToken | advance =>
    cases hstep
    exact h

/-- Once a session is revoked no call makes a verifier take a token for it again, be the token
issued or forged. -/
theorem refuses_throughout (lawful : runtime.Lawful) (h : world.Revoked id) (calls : List Call) :
    Throughout (step runtime) (World.Refuses runtime id) world calls :=
  Throughout.imp (fun _ hrevoked => World.Revoked.refuses lawful hrevoked)
    (throughout_of_invariant (P := fun later => World.Revoked later id)
      (fun _ _ _ hrevoked hstep => hrevoked.step hstep) h calls)

theorem refuses_throughout_phone :
    let id : AuthSessionId := ⟨ascii "4f0c", by decide⟩
    let other : AuthSessionId := ⟨ascii "91ab", by decide⟩
    let input : IssueInput := ⟨none, some (ascii "phone"), none, some .client, none⟩
    ∃ world, exec (step asciiRuntime) (World.initial 1700000000000)
        [.issue id input, .issue other input, .revokeAllExcept other] = some world ∧
      Throughout (step asciiRuntime) (World.Refuses asciiRuntime id) world
        [.advance 10, .issue id input, .issueWebSocketToken id none] := by
  intro id other input
  have hne : id ≠ other := by decide
  refine ⟨_, rfl, refuses_throughout asciiRuntime_lawful ⟨_, rfl, ?_⟩ _⟩
  simp [hne]

end GT3Code.Auth
