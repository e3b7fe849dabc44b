import TowerDefence.Engine.AngleLerp
import TowerDefence.Engine.Angles
import TowerDefence.Engine.Camera
import TowerDefence.Engine.CursorRay
import TowerDefence.Engine.DrawOrder
import TowerDefence.Engine.Feedback
import TowerDefence.Engine.FloatCompare
import TowerDefence.Engine.Frames
import TowerDefence.Engine.HealthBars
import TowerDefence.Engine.KeyEdges
import TowerDefence.Engine.KeyState
import TowerDefence.Engine.Painting
import TowerDefence.Engine.Panning
import TowerDefence.Engine.Picking
import TowerDefence.Engine.Quads
import TowerDefence.Engine.RenderOrder
import TowerDefence.Engine.Safety
import TowerDefence.Engine.Scancodes
import TowerDefence.Engine.Snapping
import TowerDefence.Engine.SortedBatches
import TowerDefence.Engine.SpriteBatches
import TowerDefence.Engine.Termination
import TowerDefence.Engine.TileAtlas
import TowerDefence.Foundations.Accumulator
import TowerDefence.Foundations.Allocation
import TowerDefence.Foundations.Batches
import TowerDefence.Foundations.BinaryFormat
import TowerDefence.Foundations.Carry
import TowerDefence.Foundations.Grid
import TowerDefence.Foundations.Grouping
import TowerDefence.Foundations.Latch
import TowerDefence.Foundations.Loop
import TowerDefence.Foundations.Merge
import TowerDefence.Foundations.OrderedMap
import TowerDefence.Foundations.Ordering
import TowerDefence.Foundations.Purse
import TowerDefence.Foundations.Queue
import TowerDefence.Foundations.Quiet
import TowerDefence.Foundations.Run
import TowerDefence.Foundations.Slots
import TowerDefence.Foundations.Triangles
import TowerDefence.Game.Delivery
import TowerDefence.Game.FixedStep
import TowerDefence.Game.Placement
import TowerDefence.Game.Replay
import TowerDefence.Game.Safety
import TowerDefence.Game.Termination
import TowerDefence.Map.Buildable
import TowerDefence.Map.Distances
import TowerDefence.Map.FileTiles
import TowerDefence.Map.PathPlacement
import TowerDefence.Model.Arithmetic
import TowerDefence.Model.Binary32
import TowerDefence.Model.Camera
import TowerDefence.Model.Engine
import TowerDefence.Model.Entities
import TowerDefence.Model.Game
import TowerDefence.Model.GameState
import TowerDefence.Model.Input
import TowerDefence.Model.Interpolation
import TowerDefence.Model.MapData
import TowerDefence.Model.Overlay
import TowerDefence.Model.Quiet
import TowerDefence.Model.Rational
import TowerDefence.Model.Real
import TowerDefence.Model.Render
import TowerDefence.Model.Session
import TowerDefence.Model.Sprites
import TowerDefence.Model.Tileset
import TowerDefence.Model.Tileson
import TowerDefence.Model.Transform
import TowerDefence.Session.Battle
import TowerDefence.Session.Deaths
import TowerDefence.Session.Definedness
import TowerDefence.Session.Flight
import TowerDefence.Session.Frames
import TowerDefence.Session.Goal
import TowerDefence.Session.GoalDistance
import TowerDefence.Session.Health
import TowerDefence.Session.Homing
import TowerDefence.Session.Identity
import TowerDefence.Session.Interpolation
import TowerDefence.Session.Ledger
import TowerDefence.Session.LifeCycle
import TowerDefence.Session.Naming
import TowerDefence.Session.Orphans
import TowerDefence.Session.Protocol
import TowerDefence.Session.Purchases
import TowerDefence.Session.RateOfFire
import TowerDefence.Session.Refinement
import TowerDefence.Session.Safety
import TowerDefence.Session.Spacing
import TowerDefence.Session.Spawning
import TowerDefence.Session.Termination
import TowerDefence.Step.Account
import TowerDefence.Step.Blasts
import TowerDefence.Step.Bounds
import TowerDefence.Step.Clearance
import TowerDefence.Step.Commands
import TowerDefence.Step.Context
import TowerDefence.Step.Definedness
import TowerDefence.Step.Detonation
import TowerDefence.Step.Enemies
import TowerDefence.Step.Flocking
import TowerDefence.Step.History
import TowerDefence.Step.Interpolation
import TowerDefence.Step.Movement
import TowerDefence.Step.Objects
import TowerDefence.Step.PathMeasure
import TowerDefence.Step.Permutation
import TowerDefence.Step.Projectiles
import TowerDefence.Step.Purchases
import TowerDefence.Step.Query
import TowerDefence.Step.Reach
import TowerDefence.Step.Salvos
import TowerDefence.Step.Spacing
import TowerDefence.Step.Targets
import TowerDefence.Step.Towers
