import Casebook.Proofs.Collector.Alongside

/-! Collecting without writing. A collector that only looks does in one unchanging tree what a real
one does in the trees that its writing makes, as long as both read the same from every source.
-/

namespace Casebook.Collector

/-- The collector that only looks. -/
def preview (k : Collector) : Collector :=
  { k with writer := { k.writer with dryRun := true } }

variable {k : Collector} {begun s : Collecting} {written : List (Source × Literal)}
  {files : List Source} {counter : Nat} {p : Progress} {t : Tree}

theorem resembles_preview (k : Collector)
    : k.Resembles k.preview :=
  ⟨rfl, rfl, rfl, fun _ => rfl⟩

/-- Where a run over sources succeeds, a collector that only looks ends with the same progress, if
it always reads the same from the sources as the run.
-/
theorem collectRest_preview
    (undisturbed
      : ∀ written s, k.Reaches begun written s → s.progress.casesWritten ≤ p.casesWritten →
          ∀ file ∈ files, t.readText file.path = s.tree.readText file.path)
    (reached : k.Reaches begun written s) (next : s.progress.nextIndex = counter)
    (ok : (k.collectRest files counter s).result = .ok p)
    : (k.preview.collectRest files counter (s.inTree t)).result = .ok p := by
  have writes : k.preview.writer.WritesAmong (· = t) (fun _ => True) :=
    fun tree index content same _ => ⟨tree, same, rfl⟩
  refine (collectRest_alongside (resembles_preview k) writes (fun _ _ => trivial) ?_ reached next
    rfl ok).1
  rintro written s _ reached le rfl file member
  exact undisturbed written s reached le file member

end Casebook.Collector
