import ScenePlayer.Bytes.Hex
import ScenePlayer.Canvas.Recording
import ScenePlayer.Main
import ScenePlayer.Proofs.Script.Edits
import ScenePlayer.Proofs.Script.History
import ScenePlayer.Script.Record
import ScenePlayer.Proofs.Script.Cuts
import ScenePlayer.Proofs.Paint.Supply
import ScenePlayer.Proofs.Canvas.Trace
import ScenePlayer.Proofs.Replay.Action
import ScenePlayer.Proofs.Replay.ActiveScripts
import ScenePlayer.Proofs.Replay.Moment
import ScenePlayer.Proofs.Replay.ActiveChain
import ScenePlayer.Proofs.Asset.Edits
import ScenePlayer.Proofs.Asset.History
import ScenePlayer.Proofs.Paint.Coherence
import ScenePlayer.Proofs.Paint.Currency
import ScenePlayer.Proofs.Paint.Entries
import ScenePlayer.Proofs.Paint.Retention
import ScenePlayer.Proofs.Scene.Edits
import ScenePlayer.Proofs.Scene.Freshness
import ScenePlayer.Proofs.Scene.FrameCourse
import ScenePlayer.Proofs.Raster.Agreement
import ScenePlayer.Proofs.Replay.Agreement
import ScenePlayer.Proofs.Player.Easel
import ScenePlayer.Proofs.Player.Publication
import ScenePlayer.Proofs.Replay.Change
import ScenePlayer.Proofs.Replay.Confinement
import ScenePlayer.Proofs.Replay.Inheritance
import ScenePlayer.Proofs.Replay.Enumeration
import ScenePlayer.Proofs.Bytes.Utf8
import ScenePlayer.Proofs.Bytes.Words
import ScenePlayer.Proofs.Scalar.Representable
import ScenePlayer.Proofs.Script.Acceptance
import ScenePlayer.Proofs.Script.RoundTrip
import ScenePlayer.Proofs.DirtyFlag.Interleaving
import ScenePlayer.Proofs.Raster.ClipMasks
import ScenePlayer.Proofs.Canvas.View
import ScenePlayer.Proofs.Replay.Clips
import ScenePlayer.Proofs.Script.Canonical
import ScenePlayer.Proofs.Scene.Repetition
import ScenePlayer.Proofs.Scene.Refusals
import ScenePlayer.Proofs.Replay.Reachability
import ScenePlayer.Proofs.Player.Service
import ScenePlayer.Proofs.State.Unnumbered
import ScenePlayer.Proofs.Replay.Issue
import ScenePlayer.Proofs.Replay.Sketch
import ScenePlayer.Proofs.Replay.Warnings
import ScenePlayer.Proofs.Replay.DepthLimit
import ScenePlayer.Proofs.Paint.Balance
import ScenePlayer.Proofs.Scene.Batches
import ScenePlayer.Proofs.Replay.Unbalanced
import ScenePlayer.Proofs.Replay.Brackets
import ScenePlayer.Proofs.Replay.Expansion
import ScenePlayer.Proofs.Bytes.Parts
import ScenePlayer.Proofs.Raster.ClipAlgebra
import ScenePlayer.Proofs.Replay.PathDrawing
import ScenePlayer.Proofs.Asset.Upload
import ScenePlayer.Proofs.Scalar.Order
import ScenePlayer.Proofs.Script.Alignment
import ScenePlayer.Proofs.Geometry.Draft
import ScenePlayer.Proofs.Geometry.Sweeps
import ScenePlayer.Proofs.Geometry.Finiteness
import ScenePlayer.Proofs.Script.Truncation
import ScenePlayer.Proofs.Raster.FramePixels
import ScenePlayer.Proofs.Raster.Readback
import ScenePlayer.Proofs.Cli.Start
import ScenePlayer.Proofs.Settings.Literals
import ScenePlayer.Proofs.Settings.Environment
import ScenePlayer.Proofs.Cli.Groups
import ScenePlayer.Proofs.State.Positions
import ScenePlayer.Proofs.State.Sessions
