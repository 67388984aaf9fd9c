import ScenarioCheck.Proofs.Session.Consistent

/-! What a session has from its host, and from nothing on the disk: where its project is, and which
documents are open. -/
namespace ScenarioCheck.Session

open Project
open Step (Definition)

structure Host where
  start? : Option Path
  file? : Option Path
  documents : List (String × String)

def host (s : Session) : Host := ⟨s.start?, s.file?, s.documents⟩

/-- Only the events of documents matter to what the host has said. -/
def Host.after (h : Host) : Event → Host
  | .documentChanged uri text => { h with documents := Ordered.put uri text h.documents }
  | .documentClosed uri => { h with documents := Ordered.erase uri h.documents }
  | _ => h

variable (w : Workplace) (s : Session)

theorem host_andThen {turn : Turn} {next : Session → Turn} (h : turn.session.host = s.host)
    (hnext : ∀ u, (next u).session.host = u.host) : (turn.andThen next).session.host = s.host := by
  unfold Turn.andThen
  split
  · exact h
  · exact (hnext turn.session).trans h

@[simp] theorem host_revalidate : (s.revalidate w).session.host = s.host := by
  unfold revalidate
  split
  · rfl
  · rename_i h
    obtain ⟨⟨_, rfl⟩, -⟩ := exists_substitute_of_inForce h
    rfl

@[simp] theorem host_readSteps (c : Configuration) (others : List (String × List Definition))
    (paths : List Path) : (s.readSteps w c others paths).session.host = s.host := by
  unfold readSteps
  apply host_andThen s _ (host_revalidate w)
  dsimp only
  unfold register
  split <;> rfl

@[simp] theorem host_withConfiguration {next : Configuration → Session → Turn}
    (hnext : ∀ c u, (next c u).session.host = u.host) :
    (s.withConfiguration w next).session.host = s.host := by
  rcases s.withConfiguration_spec w next with ⟨fault, h⟩ | ⟨c, notices, h⟩
  · rw [h]
    rfl
  · rw [h]
    exact host_andThen s rfl (hnext c)

@[simp] theorem host_handle (e : Event) : (s.handle w e).session.host = s.host.after e := by
  cases e with
  | loadAll =>
    apply host_withConfiguration w s
    intro c u
    split
    · rfl
    · exact host_readSteps w u c _ _
  | stepsChanged paths =>
    exact host_withConfiguration w s fun c u => host_readSteps w u c [] paths
  | stepsDeleted path => exact host_revalidate w _
  | documentChanged uri text => exact host_revalidate w _
  | documentClosed uri => rfl

@[simp] theorem host_run (t : Tracked) (history : List (Workplace × Event)) :
    (t.run history).session.host = (history.map Prod.snd).foldl Host.after t.session.host := by
  induction history generalizing t with
  | nil => rfl
  | cons event history ih =>
    have hstep : (t.step event).session.host = t.session.host.after event.2 :=
      host_handle event.1 t.session event.2
    rw [Tracked.run, List.foldl_cons, ← Tracked.run, ih (t.step event), hstep, List.map_cons,
      List.foldl_cons]

@[simp] theorem Host.project_after (h : Host) (events : List Event) :
    (events.foldl Host.after h).start? = h.start? ∧ (events.foldl Host.after h).file? = h.file? := by
  induction events generalizing h with
  | nil => exact ⟨rfl, rfl⟩
  | cons event events ih => cases event <;> exact ih _

@[simp] theorem documents_run (t : Tracked) (history : List (Workplace × Event)) :
    (t.run history).session.documents =
      ((history.map Prod.snd).foldl Host.after t.session.host).documents :=
  congrArg Host.documents (host_run t history)

theorem project_run (start? file? : Option Path) (substitute? : Option Configuration)
    (history : List (Workplace × Event)) :
    let s := ((Tracked.fresh start? file? substitute?).run history).session
    s.start? = start? ∧ s.file? = file? := by
  intro s
  have hhost : s.host = _ := host_run (Tracked.fresh start? file? substitute?) history
  obtain ⟨hstart, hfile⟩ := Host.project_after (Tracked.fresh start? file? substitute?).session.host
    (history.map Prod.snd)
  rw [← hhost] at hstart hfile
  exact ⟨hstart, hfile⟩

end ScenarioCheck.Session
