import SwDriver.Map
import SwDriver.Path
import SwDriver.Compiler
import SwDriver.Language
import SwDriver.Registry
import SwDriver.Exec
import SwDriver.SourceFile
import SwDriver.Storage
import SwDriver.Invariant
import SwDriver.Binding
import SwDriver.Glob
import SwDriver.Postpone
import SwDriver.ProjectPath
import SwDriver.ObjectFile
import SwDriver.Linker
import SwDriver.WindowsKit
import SwDriver.VersionProbe
import SwDriver.CommandGraph
import SwDriver.Detect
import SwDriver.Pipeline
import SwDriver.ProjectLayout
import SwDriver.FileWalk
import SwDriver.DetectWindows
import SwDriver.Api
import SwDriver.Run
import SwDriver.GlobCache
