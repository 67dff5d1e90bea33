import ShapeScene.Main
import ShapeScene.Proofs.Color
import ShapeScene.Proofs.CommandLine.Placement
import ShapeScene.Proofs.Console.Completion
import ShapeScene.Proofs.Console.Hearing
import ShapeScene.Proofs.Console.Promises
import ShapeScene.Proofs.Console.Settings
import ShapeScene.Proofs.Description.Languages
import ShapeScene.Proofs.Description.Registration
import ShapeScene.Proofs.Description.Spelling
import ShapeScene.Proofs.Image.Grammar
import ShapeScene.Proofs.Image.Picture
import ShapeScene.Proofs.Image.Size
import ShapeScene.Proofs.Page.Safety
import ShapeScene.Proofs.Raytracer.Colors
import ShapeScene.Proofs.Raytracer.Verdicts
import ShapeScene.Proofs.Scene.Assembly
import ShapeScene.Proofs.Scene.Chronology
import ShapeScene.Proofs.Scene.Migration
import ShapeScene.Proofs.Scene.Naming
import ShapeScene.Proofs.Storage.Agreement
import ShapeScene.Proofs.Storage.Confinement
import ShapeScene.Proofs.Storage.Deletion
import ShapeScene.Proofs.Storage.Enumeration
import ShapeScene.Proofs.Storage.Refinement
import ShapeScene.Proofs.Storage.Repeats
