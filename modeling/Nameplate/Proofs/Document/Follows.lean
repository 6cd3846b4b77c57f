import Nameplate.Proofs.Document.Current

/-!
# Stores that follow a history

A server looks at documents when it likes, and its store keeps what was found. In between the store
still has the texts and versions that a client gave to the documents.

* `Store.Follows`: a store has the texts and versions of a history;
* `Follows.step`, `Follows.analyze`, `Undisturbed.follows`: it goes on having them;
* `Follows.page_eq`, `Follows.version?_eq`, `Follows.analyze_fst`: what can be read off the history.
-/

namespace Nameplate

namespace Reference

/-- What comes of more operations depends on the pages only. -/
theorem run_append_congr {a b : List Operation} (h : run a = run b) (more : List Operation) :
    run (a ++ more) = run (b ++ more) := by
  unfold run at h ⊢
  rw [List.foldl_append, List.foldl_append, h]

end Reference

namespace Store

/-- A store follows a history if a history with the same texts and versions has led to it. The two
histories differ in what has been looked at. -/
def Follows (s : Store) (ops : List Operation) : Prop :=
  ∃ seen, s = Store.run {} seen ∧ Reference.run seen = Reference.run ops

theorem follows_run (ops : List Operation) : (Store.run {} ops).Follows ops := ⟨ops, rfl, rfl⟩

namespace Follows

variable {s : Store} {ops : List Operation}

theorem step (h : s.Follows ops) (op : Operation) : (s.step op).2.Follows (ops ++ [op]) := by
  obtain ⟨seen, rfl, hseen⟩ := h
  refine ⟨seen ++ [op], ?_, Reference.run_append_congr hseen [op]⟩
  rw [run_append, run_singleton]

/-- To look at a document changes no text. -/
theorem analyze (h : s.Follows ops) (u : Uri) : (s.analyze u).2.Follows ops := by
  obtain ⟨seen, hs, hpages⟩ := h.step (.analyze u)
  exact ⟨seen, hs, hpages.trans (Reference.run_analyze ops u)⟩

theorem page_eq (h : s.Follows ops) (u : Uri) :
    (s.get? u).map (fun d => d.document.page) = Reference.run ops u := by
  obtain ⟨seen, rfl, hseen⟩ := h
  rw [page_run, hseen]

theorem isOpen_eq (h : s.Follows ops) (u : Uri) : s.isOpen u = (Reference.run ops u).isSome := by
  rw [isOpen, ← h.page_eq, Option.isSome_map]

theorem version?_eq (h : s.Follows ops) (u : Uri) :
    s.version? u = (Reference.run ops u).map Page.version := by
  obtain ⟨seen, rfl, hseen⟩ := h
  rw [version?_run, hseen]

theorem analyze_fst (h : s.Follows ops) (u : Uri) :
    (s.analyze u).1.map Made.analysis = (Reference.run ops u).map (Page.analysis u) := by
  obtain ⟨seen, rfl, hseen⟩ := h
  rw [analyze_run, Reference.analyze, hseen]

end Follows

end Store

/-- A command leaves the texts as they are. -/
theorem Undisturbed.follows {α : Type} {s : Store} {x : Except RequestError α × Store}
    {ops : List Operation} (hx : Undisturbed s x) (h : s.Follows ops) : x.2.Follows ops := by
  obtain ⟨more, hmore⟩ := hx.history
  obtain ⟨seen, rfl, hseen⟩ := h
  rw [← Store.run_append] at hmore
  refine ⟨seen ++ more, hmore, ?_⟩
  rw [← hseen]
  funext u
  have hkept := congrArg (Option.map Prod.snd) (hx.kept u)
  rw [hmore, Option.map_map, Option.map_map] at hkept
  rw [← Store.page_run, ← Store.page_run]
  exact hkept

end Nameplate
