import Readiness.Tunnel.Clock

/-!
# Copying — one pass moves everything

A pass receives, sends and lets the far side react. Each of the three has nothing left to do
afterwards, so a second pass at the same instant changes nothing: `Link.copy_again`.
-/

namespace Readiness

namespace Link

variable {now : Nat} {client next : Client} {link after : Link}

/-- What is still coming after a pass is not there yet. -/
theorem receive_again {coming : List (Nat × Arrival)}
    (h : link.receive now client coming = (next, after, .goesOn)) {other : Link} (user : Client)
    (rest : other.coming = after.coming) (since : other.since = after.since) :
    other.receive now user other.coming = (user, other, .goesOn) := by
  induction coming generalizing client with
  | nil =>
      cases h
      cases other
      cases rest
      rfl
  | cons first coming ih =>
      rcases first with ⟨offset, arrival⟩
      unfold receive at h
      split at h
      · rename_i early
        cases h
        rcases other with ⟨remote, start, coming, held, taken, told, ended⟩
        cases rest
        cases since
        simp only [receive, early, if_true]
      · cases arrival with
        | data bytes => exact ih h
        | eof =>
            cases h
            cases other
            cases rest
            rfl
        | failure reason => cases h

/-- Nothing is left to send after a pass. -/
theorem send_again (outbox : client.outbox = []) (told : link.told = client.finished) :
    link.send client = (client, link, .goesOn) := by
  rcases client with ⟨written, finished, inbox, ended⟩
  rcases link with ⟨remote, since, coming, held, taken, known, ceased⟩
  cases outbox
  cases told
  simp [send]

theorem send_keeps (h : link.send client = (next, after, .goesOn)) :
    next.outbox = [] ∧ after.told = next.finished ∧ after.coming = link.coming ∧
      after.since = link.since := by
  unfold send at h
  split at h
  · cases h
  · cases h
    exact ⟨rfl, rfl, rfl, rfl⟩

theorem receive_outbox (client : Client) (bytes : Bytes) :
    (client.receive bytes).outbox = client.outbox ∧
      (client.receive bytes).finished = client.finished := by
  unfold Client.receive
  split <;> exact ⟨rfl, rfl⟩

/-- The far side changes neither what the near side still has to send nor what comes next. -/
theorem react_keeps (h : link.react now client = (next, after)) :
    next.outbox = client.outbox ∧ next.finished = client.finished ∧ after.told = link.told ∧
      after.coming = link.coming ∧ after.since = link.since := by
  have hheld := receive_outbox client link.held
  have htally := receive_outbox client (tally (link.taken + link.held.length))
  unfold react at h
  split at h
  · cases h
    exact ⟨rfl, rfl, rfl, rfl, rfl⟩
  · cases hmanner : link.remote.manner with
    | ignores =>
        simp only [hmanner] at h
        cases h
        exact ⟨rfl, rfl, rfl, rfl, rfl⟩
    | leaves =>
        simp only [hmanner] at h
        cases h
        exact ⟨rfl, rfl, rfl, rfl, rfl⟩
    | echoes =>
        simp only [hmanner] at h
        split at h
        · cases h
          exact ⟨hheld.1, hheld.2, rfl, rfl, rfl⟩
        · cases h
          exact ⟨hheld.1, hheld.2, rfl, rfl, rfl⟩
    | counts =>
        simp only [hmanner] at h
        split at h
        · cases h
          exact ⟨htally.1, htally.2, rfl, rfl, rfl⟩
        · cases h
          exact ⟨rfl, rfl, rfl, rfl, rfl⟩

/-- The far side has nothing left to react to, unless both directions have ended. -/
theorem react_again (h : link.react now client = (next, after))
    (going : (after.told && after.ended) = false) : after.react now next = (next, after) := by
  unfold react at h
  split at h
  · rename_i asleep
    cases h
    simp only [react, asleep, if_true]
  · rename_i awake
    cases hmanner : link.remote.manner with
    | ignores =>
        simp only [hmanner] at h
        cases h
        simp [react, hmanner, awake]
    | leaves =>
        simp only [hmanner] at h
        cases h
        simp [react, hmanner, awake]
    | echoes =>
        simp only [hmanner] at h
        split at h
        · rename_i told
          cases h
          simp [told] at going
        · rename_i told
          cases h
          have hnothing : (client.receive link.held).receive [] = client.receive link.held := by
            unfold Client.receive
            split <;> simp_all
          simp [react, hmanner, awake, told, hnothing]
    | counts =>
        simp only [hmanner] at h
        split at h
        · rename_i told
          cases h
          simp [told] at going
        · rename_i told
          cases h
          simp [react, hmanner, awake, told]

/-- After a pass that goes on, another one at the same instant changes nothing. -/
theorem copy_again (h : link.copy now client = (next, after, .goesOn)) :
    after.copy now next = (next, after, .goesOn) := by
  cases hreceive : link.receive now client link.coming with
  | mk heard rest =>
      rcases rest with ⟨received, copied⟩
      cases copied with
      | done => simp [copy, hreceive] at h
      | broken reason => simp [copy, hreceive] at h
      | goesOn =>
          cases hsend : received.send heard with
          | mk emptied rest =>
              rcases rest with ⟨sent, copied⟩
              cases copied with
              | done => simp [copy, hreceive, hsend] at h
              | broken reason => simp [copy, hreceive, hsend] at h
              | goesOn =>
                  cases hreact : sent.react now emptied with
                  | mk last reacted =>
                      simp only [copy, hreceive, hsend, hreact, Prod.mk.injEq] at h
                      rcases h with ⟨rfl, rfl, hcopied⟩
                      have going : (reacted.told && reacted.ended) = false := by
                        cases hboth : reacted.told && reacted.ended with
                        | false => rfl
                        | true => simp [hboth] at hcopied
                      rcases send_keeps hsend with ⟨houtbox, htold, hcoming, hsince⟩
                      rcases react_keeps hreact with
                        ⟨houtbox', hfinished, htold', hcoming', hsince'⟩
                      have hreceived := receive_again hreceive last (hcoming'.trans hcoming)
                        (hsince'.trans hsince)
                      have hsent : reacted.send last = (last, reacted, .goesOn) :=
                        send_again (houtbox'.trans houtbox) (by rw [htold', htold, hfinished])
                      simp only [copy, hreceived, hsent, react_again hreact going, going]
                      simp

end Link

end Readiness
