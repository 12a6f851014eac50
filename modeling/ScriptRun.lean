import ScriptRun.Value.Text
import ScriptRun.Diagnostic.Exchange
import ScriptRun.Script.Resolver
import ScriptRun.Settings.Options
import ScriptRun.Application
import ScriptRun.World.MemoryHost
import ScriptRun.Path.Scheme
import ScriptRun.Run.Execution
import ScriptRun.Settings.Search
import ScriptRun.Scenario.Action
import ScriptRun.Scenario.Guests
import ScriptRun.Scenario.Session
import ScriptRun.Proofs.Run.Conservation
import ScriptRun.Proofs.Declaration.TypeNames
import ScriptRun.Proofs.Declaration.Refusal
import ScriptRun.Proofs.Script.Resolution
import ScriptRun.Proofs.Script.Reach
import ScriptRun.Proofs.Settings.Precedence
import ScriptRun.Proofs.Run.Lifecycle
import ScriptRun.Proofs.Run.Functions
import ScriptRun.Proofs.Run.Constants
import ScriptRun.Proofs.Run.OnceOnly
import ScriptRun.Proofs.Script.Spelling
import ScriptRun.Proofs.Run.Autoload
import ScriptRun.Proofs.Settings.NearestProject
import ScriptRun.Proofs.Run.Scope
import ScriptRun.Proofs.Run.Deeds
import ScriptRun.Proofs.Run.Variables
import ScriptRun.Proofs.Settings.Validity
import ScriptRun.Proofs.Diagnostic.Exchange
import ScriptRun.Proofs.Diagnostic.Sort
import ScriptRun.Proofs.World.HostCalls
import ScriptRun.Proofs.Run.Tale
import ScriptRun.Proofs.Run.Output
import ScriptRun.Proofs.Run.Handler
import ScriptRun.Proofs.Settings.Overlay
import ScriptRun.Proofs.Run.RawInclusion
import ScriptRun.Proofs.Run.OwnName
import ScriptRun.Proofs.Value.Equality
import ScriptRun.Proofs.Script.Siblings
import ScriptRun.Proofs.Script.Below
import ScriptRun.Proofs.Script.Scheme
import ScriptRun.Proofs.Settings.ProjectFile
import ScriptRun.Proofs.Run.Redeclaration
