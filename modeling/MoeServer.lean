import MoeServer.Python.Builtins
import MoeServer.Python.Decimal
import MoeServer.Python.Format
import MoeServer.Uids.Generate
import MoeServer.FileSystem.Basic
import MoeServer.FileSystem.Calls
import MoeServer.FileSystem.Names
import MoeServer.FileSystem.Contents
import MoeServer.Torch.Module
import MoeServer.HfLoader
import MoeServer.Quantization.Replace
import MoeServer.Quantization.Spec
import MoeServer.Quantization.Paths
import MoeServer.Quantization.StateDict
import MoeServer.Checkpoints.Store
import MoeServer.Checkpoints.Staging
import MoeServer.Checkpoints.CopyTree
import MoeServer.Checkpoints.Cycle
import MoeServer.Checkpoints.Layout
import MoeServer.Checkpoints.Restore
import MoeServer.Server.Create
import MoeServer.Server.Lifecycle
import MoeServer.Server.Background
import MoeServer.Server.BackgroundRuns
import MoeServer.Server.Runner
