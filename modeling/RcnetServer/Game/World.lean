/-
  RcnetServer.Game.World

  Entities and their design data (game/data, game/state.h, game/world/spawning).

  The three config headers index a table with a byte and read the entry of `None`
  for a byte that names no type; an index out of the table would be undefined and
  is `none` here.  The world is the part of `GameState` that the match flow does
  not read.
-/

import RcnetServer.Lib.TraceMachine
import RcnetServer.Lib.UnorderedMap

namespace RcnetServer

-- ============================================================================
-- Design data
-- ============================================================================

/-- `EntityType`. -/
inductive EntityType
  | none
  | player
  | projectile
  | item
deriving DecidableEq

/-- `PlayerType`. -/
inductive PlayerType
  | none
  | warrior
  | mage
  | rogue
  | count
deriving DecidableEq

/-- `ProjectileType`. -/
inductive ProjectileType
  | none
  | fireball
  | rocket
  | iceBolt
  | count
deriving DecidableEq

/-- `ItemType`. -/
inductive ItemType
  | none
  | healthPotion
  | speedBoost
  | count
deriving DecidableEq

def PlayerType.toByte : PlayerType → UInt8
  | .none => 0
  | .warrior => 1
  | .mage => 2
  | .rogue => 3
  | .count => 4

def ProjectileType.toByte : ProjectileType → UInt8
  | .none => 0
  | .fireball => 1
  | .rocket => 2
  | .iceBolt => 3
  | .count => 4

def ItemType.toByte : ItemType → UInt8
  | .none => 0
  | .healthPotion => 1
  | .speedBoost => 2
  | .count => 3

/-- `PlayerConfig`. -/
structure PlayerConfig where
  type : PlayerType := .none
  maxHealth : Int32 := 100
  moveSpeed : Float32 := 6.0
  jumpForce : Float32 := 10.0
  dashSpeed : Float32 := 12.0

/-- `ProjectileConfig`. -/
structure ProjectileConfig where
  type : ProjectileType := .none
  damage : Float32 := 0.0
  speed : Float32 := 0.0
  lifeDurationMs : UInt32 := 0
  aoeRadius : Float32 := 0.0

/-- `ItemConfig`. -/
structure ItemConfig where
  type : ItemType := .none
  healAmount : Int32 := 0
  speedMultiplier : Float32 := 1.0
  effectDurationMs : UInt32 := 0
  lifeDurationMs : UInt32 := 0

/-- `playerConfigs`. -/
def playerConfigs : List PlayerConfig :=
  [⟨.none, 0, 0.0, 0.0, 0.0⟩,
   ⟨.warrior, 150, 5.0, 9.0, 10.0⟩,
   ⟨.mage, 80, 6.5, 10.0, 11.0⟩,
   ⟨.rogue, 100, 8.0, 11.0, 14.0⟩]

/-- `projectileConfigs`. -/
def projectileConfigs : List ProjectileConfig :=
  [⟨.none, 0.0, 0.0, 0, 0.0⟩,
   ⟨.fireball, 20.0, 12.0, 1000, 0.0⟩,
   ⟨.rocket, 60.0, 8.0, 2000, 2.5⟩,
   ⟨.iceBolt, 10.0, 14.0, 100, 0.0⟩]

/-- `itemConfigs`. -/
def itemConfigs : List ItemConfig :=
  [⟨.none, 0, 1.0, 0, 0⟩,
   ⟨.healthPotion, 25, 1.0, 0, 5000⟩,
   ⟨.speedBoost, 0, 1.3, 1800, 5000⟩]

/-- The lookup the three headers share; `none` is a read outside the table. -/
def configFromId {Config : Type} (configs : List Config) (count id : UInt8) : Option Config :=
  let normalizedId := if id < count then id else 0
  configs[normalizedId.toNat]?

/-- `GetPlayerConfigFromId`. -/
def getPlayerConfigFromId (id : UInt8) : Option PlayerConfig :=
  configFromId playerConfigs PlayerType.count.toByte id

/-- `GetProjectileConfigFromId`. -/
def getProjectileConfigFromId (id : UInt8) : Option ProjectileConfig :=
  configFromId projectileConfigs ProjectileType.count.toByte id

/-- `GetItemConfigFromId`. -/
def getItemConfigFromId (id : UInt8) : Option ItemConfig :=
  configFromId itemConfigs ItemType.count.toByte id

/-- A table with an entry for each type is never read outside. -/
theorem configFromId_isSome {Config : Type} {configs : List Config} {count : UInt8}
    (hlength : configs.length = count.toNat) (hcount : 0 < count) (id : UInt8) :
    (configFromId configs count id).isSome = true := by
  have hbound : (if id < count then id else 0 : UInt8).toNat < configs.length := by
    rw [hlength]
    split
    · exact UInt8.lt_iff_toNat_lt.mp ‹_›
    · exact UInt8.lt_iff_toNat_lt.mp hcount
  unfold configFromId
  exact Option.isSome_iff_exists.mpr ⟨_, List.getElem?_eq_getElem hbound⟩

theorem getPlayerConfigFromId_isSome (id : UInt8) : (getPlayerConfigFromId id).isSome = true :=
  configFromId_isSome rfl (by decide) id

theorem getProjectileConfigFromId_isSome (id : UInt8) :
    (getProjectileConfigFromId id).isSome = true :=
  configFromId_isSome rfl (by decide) id

theorem getItemConfigFromId_isSome (id : UInt8) : (getItemConfigFromId id).isSome = true :=
  configFromId_isSome rfl (by decide) id

-- ============================================================================
-- Entities
-- ============================================================================

/-- `EntityState`. -/
structure EntityState where
  entityId : UInt32 := 0
  type : EntityType := .none
  subtypeId : UInt8 := 0
  ownerEntityId : UInt32 := 0
  positionX : Float32 := 0.0
  positionY : Float32 := 0.0
  velocityX : Float32 := 0.0
  velocityY : Float32 := 0.0
  endTick : UInt64 := 0

/-- `PlayerRuntime`. -/
structure PlayerRuntime where
  health : Int32 := 100
deriving DecidableEq

/-- `EntityConfigView`. -/
structure EntityConfigView where
  player : Option PlayerConfig := none
  projectile : Option ProjectileConfig := none
  item : Option ItemConfig := none

/-- `GetConfigFromEntity`; `none` is a read outside a table. -/
def getConfigFromEntity (entity : EntityState) : Option EntityConfigView :=
  match entity.type with
  | .player => (getPlayerConfigFromId entity.subtypeId).map fun cfg => { player := some cfg }
  | .projectile =>
      (getProjectileConfigFromId entity.subtypeId).map fun cfg => { projectile := some cfg }
  | .item => (getItemConfigFromId entity.subtypeId).map fun cfg => { item := some cfg }
  | .none => some {}

/-- Every entity has a view, whatever its subtype byte is. -/
theorem getConfigFromEntity_isSome (entity : EntityState) :
    (getConfigFromEntity entity).isSome = true := by
  unfold getConfigFromEntity
  split
  · rw [Option.isSome_map]
    exact getPlayerConfigFromId_isSome _
  · rw [Option.isSome_map]
    exact getProjectileConfigFromId_isSome _
  · rw [Option.isSome_map]
    exact getItemConfigFromId_isSome _
  · rfl

-- ============================================================================
-- Spawning
-- ============================================================================

/-- The world state of `GameState`. -/
structure GameWorld where
  nextEntityId : UInt32 := 1
  entities : UnorderedMap UInt32 EntityState := ∅
  players : UnorderedMap UInt32 PlayerRuntime := ∅

/-- The entity `ServerWorld_SpawnPlayer` makes. -/
def playerEntity (entityId : UInt32) (type : PlayerType) : EntityState :=
  { entityId := entityId, type := .player, subtypeId := type.toByte }

/-- `ServerWorld_SpawnPlayer`: the world it leaves and the id it returns. -/
def ServerWorld.spawnPlayer (world : GameWorld) (type : PlayerType) :
    Option (GameWorld × UInt32) :=
  let entityId := world.nextEntityId
  let entity := playerEntity entityId type
  match getPlayerConfigFromId entity.subtypeId with
  | none => none
  | some cfg =>
      some
        ({ nextEntityId := world.nextEntityId + 1
           entities := world.entities.insert entityId entity
           players := world.players.insert entityId { health := cfg.maxHealth } },
          entityId)

/-- The world under any sequence of spawns; each step tells the type and the id. -/
def gameWorld : TraceMachine GameWorld PlayerType (PlayerType × UInt32) where
  start := {}
  step world type :=
    (ServerWorld.spawnPlayer world type).map fun result => (result.1, [(type, result.2)])

/-- What a spawn needs and leaves. -/
theorem gameWorld_step_eq {world world' : GameWorld} {type : PlayerType}
    {es : List (PlayerType × UInt32)} (h : gameWorld.step world type = some (world', es)) :
    ∃ cfg, getPlayerConfigFromId type.toByte = some cfg ∧
      es = [(type, world.nextEntityId)] ∧
      world' =
        { nextEntityId := world.nextEntityId + 1
          entities := world.entities.insert world.nextEntityId
            (playerEntity world.nextEntityId type)
          players := world.players.insert world.nextEntityId { health := cfg.maxHealth } } := by
  obtain ⟨result, hspawn, heq⟩ := Option.map_eq_some_iff.mp h
  obtain ⟨rfl, rfl⟩ := Prod.mk.inj heq
  unfold ServerWorld.spawnPlayer at hspawn
  dsimp only at hspawn
  split at hspawn
  · cases hspawn
  · rename_i cfg hcfg
    obtain rfl := Option.some.inj hspawn
    exact ⟨cfg, hcfg, rfl, rfl⟩

/-- A spawn is always possible. -/
theorem gameWorld_step_isSome (world : GameWorld) (type : PlayerType) :
    (gameWorld.step world type).isSome = true := by
  obtain ⟨cfg, hcfg⟩ := Option.isSome_iff_exists.mp (getPlayerConfigFromId_isSome type.toByte)
  have hspawn : getPlayerConfigFromId
      (playerEntity world.nextEntityId type).subtypeId = some cfg := hcfg
  simp [gameWorld, ServerWorld.spawnPlayer, hspawn]

end RcnetServer
