import DiceNotation.Main
import DiceNotation.Session
import DiceNotation.Proofs.Settings.Validator
import DiceNotation.Proofs.Expression.Tidying
import DiceNotation.Proofs.Chunk.Grammar
import DiceNotation.Proofs.Chunk.Reading
import DiceNotation.Proofs.Chunk.Alphabet
import DiceNotation.Proofs.Expression.Cutting
import DiceNotation.Proofs.Expression.Sums
import DiceNotation.Proofs.Compiler.Requests
import DiceNotation.Proofs.Program
import DiceNotation.Proofs.Compiler.Faithful
import DiceNotation.Proofs.Compiler.Transparency
import DiceNotation.Proofs.Compiler.Joining
import DiceNotation.Proofs.Explosion.Chains
import DiceNotation.Proofs.Explosion.Settling
import DiceNotation.Proofs.Roll.Endings
import DiceNotation.Proofs.Term.Rolling
import DiceNotation.Proofs.Explosion.Passes
import DiceNotation.Proofs.Term.Compiled
import DiceNotation.Proofs.Chunk.Signs
import DiceNotation.Proofs.Term.Signs
import DiceNotation.Proofs.Term.Checks
import DiceNotation.Proofs.Term.Safety
import DiceNotation.Proofs.Term.Budget
import DiceNotation.Proofs.Program.Refusals
import DiceNotation.Proofs.Program.Verdict
import DiceNotation.Proofs.Program.Single
import DiceNotation.Proofs.Modifier.Picking
import DiceNotation.Proofs.Modifier.Selections
import DiceNotation.Proofs.Term.Defaults
import DiceNotation.Proofs.Roll.CutShort
import DiceNotation.Proofs.Program.Relaxing
import DiceNotation.Proofs.Roll.InTurn
import DiceNotation.Proofs.Roll.InStep
import DiceNotation.Proofs.Roll.Translation
import DiceNotation.Proofs.Modifier.Raising
import DiceNotation.Proofs.Modifier.Moving
import DiceNotation.Proofs.Compiler.Coherent
import DiceNotation.Proofs.Compiler.History
import DiceNotation.Proofs.Term.Ranges
import DiceNotation.Proofs.Term.Raising
import DiceNotation.Proofs.Term.Offsets
import DiceNotation.Proofs.CommandLine.Console
import DiceNotation.Proofs.CommandLine.Terminal
import DiceNotation.Proofs.CommandLine.Shown
import DiceNotation.Proofs.CommandLine.Project
import DiceNotation.Proofs.Compiler.Reordering
import DiceNotation.Proofs.Compiler.Failures
import DiceNotation.Proofs.Compiler.Identity
import DiceNotation.Proofs.Expression.Respelling
import DiceNotation.Proofs.Compiler.Respelling
import DiceNotation.Proofs.CommandLine.Isolation
import DiceNotation.Proofs.Roll.Repeated
import DiceNotation.Proofs.Source.Generator
import DiceNotation.Proofs.Term.Magnitude
import DiceNotation.Proofs.CommandLine.Repetition
import DiceNotation.Proofs.Session.Wells
import DiceNotation.Proofs.Session.Interleaving
import DiceNotation.Proofs.Agreement
import DiceNotation.Proofs.Chunk.Recognition
import DiceNotation.Proofs.Compiler.Alignment
import DiceNotation.Proofs.Breakdown
import DiceNotation.Proofs.Term.Spelling
import DiceNotation.Proofs.Roll.Falling
import DiceNotation.Proofs.Explosion.Accounts
import DiceNotation.Proofs.Term.Calls
import DiceNotation.Proofs.Expression.Seams
import DiceNotation.Proofs.Toml.Keys
import DiceNotation.Proofs.Limits.Loading
