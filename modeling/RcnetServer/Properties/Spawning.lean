/-
  RcnetServer.Properties.Spawning

  The world under any number of spawns.

  The id counter has 32 bits and starts at 1.  The first 2^32 - 1 players get ids
  of their own; the next one gets 0, the id that stands for "no owner", and from
  then on every spawn replaces an older player.  Whatever the number of spawns, an
  id holds the last player spawned under it, with the health of its type.
-/

import RcnetServer.Game.World
import RcnetServer.Lib.WrappingCounter
import Mathlib.Data.List.Induction

namespace RcnetServer

/-- The type of the last player spawned under `id`. -/
def lastSpawn (id : UInt32) (tr : List (PlayerType × UInt32)) : Option PlayerType :=
  (tr.reverse.find? fun spawn => spawn.2 = id).map Prod.fst

/-- The health a player of a type starts with. -/
def startRuntime (type : PlayerType) : Option PlayerRuntime :=
  (getPlayerConfigFromId type.toByte).map fun cfg => { health := cfg.maxHealth }

theorem lastSpawn_append_singleton (id : UInt32) (tr : List (PlayerType × UInt32))
    (spawn : PlayerType × UInt32) :
    lastSpawn id (tr ++ [spawn]) = if spawn.2 = id then some spawn.1 else lastSpawn id tr := by
  unfold lastSpawn
  rw [List.reverse_append, List.reverse_singleton, List.singleton_append, List.find?_cons]
  by_cases hid : spawn.2 = id
  · simp [hid]
  · simp [hid]

/-- Among distinct ids the last spawn is the only one. -/
theorem lastSpawn_of_nodup {tr : List (PlayerType × UInt32)} (h : (tr.map Prod.snd).Nodup)
    {spawn : PlayerType × UInt32} (hmem : spawn ∈ tr) :
    lastSpawn spawn.2 tr = some spawn.1 := by
  induction tr using List.reverseRecOn with
  | nil => cases hmem
  | append_singleton tr last ih =>
      rw [lastSpawn_append_singleton]
      rw [List.map_append, List.nodup_append] at h
      obtain ⟨hnodup, -, hdisjoint⟩ := h
      rcases List.mem_append.mp hmem with hold | hnew
      · have hne : last.2 ≠ spawn.2 := fun heq =>
          hdisjoint _ (List.mem_map_of_mem hold) _ (List.mem_map_of_mem (List.mem_singleton_self _))
            heq.symm
        rw [if_neg hne]
        exact ih hnodup hold
      · rw [List.mem_singleton.mp hnew, if_pos rfl]

-- ============================================================================
-- The tables
-- ============================================================================

/-- The tables and the counter after the spawns `tr`. -/
structure WorldInv (world : GameWorld) (tr : List (PlayerType × UInt32)) : Prop where
  next : world.nextEntityId.toNat = (tr.length + 1) % 2 ^ 32
  ids : (tr.map Prod.snd).map UInt32.toNat = wrappingValues (2 ^ 32) tr.length
  entities : ∀ id, world.entities.lookup id = (lastSpawn id tr).map (playerEntity id)
  players : ∀ id, world.players.lookup id = (lastSpawn id tr).bind startRuntime

namespace WorldInv

variable {world world' : GameWorld} {type : PlayerType} {tr es : List (PlayerType × UInt32)}

theorem init : WorldInv {} [] where
  next := by decide
  ids := rfl
  entities := fun _ => rfl
  players := fun _ => rfl

theorem step (inv : WorldInv world tr) (h : gameWorld.step world type = some (world', es)) :
    WorldInv world' (tr ++ es) := by
  obtain ⟨cfg, hcfg, rfl, rfl⟩ := gameWorld_step_eq h
  have hruntime : startRuntime type = some { health := cfg.maxHealth } := by
    rw [startRuntime, hcfg]
    rfl
  refine ⟨?_, ?_, fun id => ?_, fun id => ?_⟩
  · rw [UInt32.toNat_add, inv.next, List.length_append, List.length_singleton]
    show ((tr.length + 1) % 2 ^ 32 + 1) % 2 ^ 32 = (tr.length + 1 + 1) % 2 ^ 32
    omega
  · rw [List.map_append, List.map_append, inv.ids, List.length_append, List.length_singleton,
      wrappingValues_succ, ← inv.next]
    rfl
  · rw [UnorderedMap.lookup_insert, lastSpawn_append_singleton]
    by_cases hid : id = world.nextEntityId
    · subst hid
      rw [if_pos rfl, if_pos rfl]
      rfl
    · rw [if_neg hid, if_neg (Ne.symm hid)]
      exact inv.entities id
  · rw [UnorderedMap.lookup_insert, lastSpawn_append_singleton]
    by_cases hid : id = world.nextEntityId
    · subst hid
      rw [if_pos rfl, if_pos rfl]
      exact hruntime.symm
    · rw [if_neg hid, if_neg (Ne.symm hid)]
      exact inv.players id

theorem of_reach (hr : gameWorld.Reach world tr) : WorldInv world tr :=
  TraceMachine.Run.invariant (P := WorldInv) init (fun _ _ _ _ _ _ inv _ hs => inv.step hs) hr

/-- The ids are distinct up to the wrap. -/
theorem nodup_iff (inv : WorldInv world tr) :
    (tr.map Prod.snd).Nodup ↔ tr.length ≤ 2 ^ 32 := by
  have hinjective : Function.Injective UInt32.toNat := fun _ _ => UInt32.toNat_inj.mp
  rw [← List.nodup_map_iff hinjective, inv.ids]
  exact nodup_wrappingValues_iff (by omega) _

/-- The id 0 is given out by the last spawn before the wrap. -/
theorem zero_notMem_iff (inv : WorldInv world tr) :
    0 ∉ tr.map Prod.snd ↔ tr.length < 2 ^ 32 := by
  have hzero : 0 ∈ tr.map Prod.snd ↔ 0 ∈ (tr.map Prod.snd).map UInt32.toNat := by
    rw [List.mem_map (f := UInt32.toNat)]
    constructor
    · exact fun h => ⟨0, h, rfl⟩
    · rintro ⟨id, hmem, hid⟩
      obtain rfl : id = 0 := UInt32.toNat_inj.mp hid
      exact hmem
  rw [hzero, inv.ids]
  exact zero_notMem_wrappingValues_iff (by omega) _

end WorldInv

-- ============================================================================
-- The laws of spawning
-- ============================================================================

/-- What a run of spawns promises. -/
structure SpawnLaws (world : GameWorld) (tr : List (PlayerType × UInt32)) : Prop where
  /-- No id is used twice, as long as there are at most 2^32 spawns. -/
  distinct : (tr.map Prod.snd).Nodup ↔ tr.length ≤ 2 ^ 32
  /-- No player has the id of "no owner", as long as there are fewer. -/
  owned : 0 ∉ tr.map Prod.snd ↔ tr.length < 2 ^ 32
  /-- Until then every player spawned is still there, as it was spawned. -/
  kept : tr.length ≤ 2 ^ 32 → ∀ spawn ∈ tr,
    world.entities.lookup spawn.2 = some (playerEntity spawn.2 spawn.1) ∧
    world.players.lookup spawn.2 = startRuntime spawn.1
  /-- The tables have the same ids, which are ids that were given out. -/
  sameIds : ∀ id, ((world.entities.lookup id).isSome = true ↔ id ∈ tr.map Prod.snd) ∧
    ((world.players.lookup id).isSome = true ↔ id ∈ tr.map Prod.snd)
  /-- An entity names its own id, and its player has the health of the config that
      the entity leads to. -/
  health : ∀ id entity, world.entities.lookup id = some entity → entity.entityId = id ∧
    ∃ cfg, getConfigFromEntity entity = some { player := some cfg } ∧
      world.players.lookup id = some { health := cfg.maxHealth }
  /-- The next spawn succeeds. -/
  next : ∀ type, (gameWorld.step world type).isSome = true

theorem lastSpawn_isSome_iff {id : UInt32} {tr : List (PlayerType × UInt32)} :
    (lastSpawn id tr).isSome = true ↔ id ∈ tr.map Prod.snd := by
  rw [lastSpawn, Option.isSome_map, List.find?_isSome]
  simp

theorem startRuntime_eq (type : PlayerType) :
    ∃ cfg, getPlayerConfigFromId type.toByte = some cfg ∧
      startRuntime type = some { health := cfg.maxHealth } := by
  obtain ⟨cfg, hcfg⟩ := Option.isSome_iff_exists.mp (getPlayerConfigFromId_isSome type.toByte)
  refine ⟨cfg, hcfg, ?_⟩
  rw [startRuntime, hcfg]
  rfl

/-- Every sequence of spawns keeps the promises. -/
theorem spawning_laws {world : GameWorld} {tr : List (PlayerType × UInt32)}
    (hr : gameWorld.Reach world tr) : SpawnLaws world tr := by
  have inv := WorldInv.of_reach hr
  refine ⟨inv.nodup_iff, inv.zero_notMem_iff, ?_, fun id => ⟨?_, ?_⟩, ?_,
    gameWorld_step_isSome world⟩
  · intro hfew spawn hmem
    have hlast := lastSpawn_of_nodup (inv.nodup_iff.mpr hfew) hmem
    rw [inv.entities, inv.players, hlast]
    exact ⟨rfl, rfl⟩
  · rw [inv.entities, Option.isSome_map, lastSpawn_isSome_iff]
  · rw [inv.players, ← lastSpawn_isSome_iff]
    cases lastSpawn id tr with
    | none => rfl
    | some type =>
        obtain ⟨cfg, -, hruntime⟩ := startRuntime_eq type
        rw [Option.bind_some, hruntime]
        rfl
  · intro id entity hentity
    rw [inv.entities] at hentity
    obtain ⟨type, hlast, rfl⟩ := Option.map_eq_some_iff.mp hentity
    obtain ⟨cfg, hcfg, hruntime⟩ := startRuntime_eq type
    refine ⟨rfl, cfg, ?_, ?_⟩
    · have hsubtype : getPlayerConfigFromId (playerEntity id type).subtypeId = some cfg := hcfg
      show (getPlayerConfigFromId (playerEntity id type).subtypeId).map _ = _
      rw [hsubtype]
      rfl
    · rw [inv.players, hlast, Option.bind_some, hruntime]

/-- Two players, each with the health of its type. -/
theorem twoSpawns_laws : ∃ world, gameWorld.Reach world [(.warrior, 1), (.mage, 2)] ∧
    world.players.lookup 1 = some { health := 150 } ∧
    world.players.lookup 2 = some { health := 80 } := by
  have hstart : gameWorld.Reach {} [] := .start
  have hr := (hstart.next (a := .warrior) rfl).next (a := .mage) rfl
  have hlaws := spawning_laws hr
  exact ⟨_, hr, (hlaws.kept (by decide) (.warrior, 1) (by decide)).2,
    (hlaws.kept (by decide) (.mage, 2) (by decide)).2⟩

end RcnetServer
