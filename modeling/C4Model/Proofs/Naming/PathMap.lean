import C4Model.Naming.PathMap
import C4Model.Proofs.Association

/-! Paths that are registered for different elements: none is refused, and each is found again. -/

namespace C4Model.Naming.PathMap

theorem registerAll_of_nodup {map : PathMap} {paths : List (Identity × String)}
    (hdistinct : ((map.paths ++ paths).map Prod.fst).Nodup) :
    map.registerAll paths = .ok ⟨map.paths ++ paths⟩ := by
  induction paths generalizing map with
  | nil => simp [registerAll]
  | cons entry rest ih =>
      obtain ⟨identity, path⟩ := entry
      have hfresh : identity ∉ map.paths.map Prod.fst := by
        intro hmem
        rw [List.map_append, List.nodup_append] at hdistinct
        exact hdistinct.2.2 _ hmem _ List.mem_cons_self rfl
      have hregister : map.register identity path = .ok ⟨map.paths ++ [(identity, path)]⟩ := by
        rw [register, path?, Association.lookup_eq_none hfresh]
      rw [List.append_cons] at hdistinct ⊢
      rw [registerAll, hregister]
      exact ih hdistinct

theorem path?_of_mem {map : PathMap} (hdistinct : (map.paths.map Prod.fst).Nodup)
    {identity : Identity} {path : String} (hmem : (identity, path) ∈ map.paths) :
    map.path? identity = some path :=
  Association.lookup_of_mem hdistinct hmem

theorem mem_of_path? {map : PathMap} {identity : Identity} {path : String}
    (hpath : map.path? identity = some path) : (identity, path) ∈ map.paths :=
  Association.mem_of_lookup hpath

end C4Model.Naming.PathMap
