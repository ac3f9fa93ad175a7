import ShaderBuild.Build.Batch
import ShaderBuild.CommandLine
import ShaderBuild.Main
import ShaderBuild.Proofs.Block.Reading
import ShaderBuild.Proofs.Block.Reread
import ShaderBuild.Proofs.Include.ActiveStack
import ShaderBuild.Proofs.Include.Assembly
import ShaderBuild.Proofs.Include.Emission
import ShaderBuild.Proofs.Include.Machine
import ShaderBuild.Proofs.Include.Resolver
import ShaderBuild.Proofs.Include.Success
import ShaderBuild.Proofs.Include.Unfolding
import ShaderBuild.Proofs.Include.Walk
import ShaderBuild.Proofs.Source.Lines
import ShaderBuild.Shell.Launch
import ShaderBuild.Proofs.Include.Depth
import ShaderBuild.Proofs.FileTree.Lookup
import ShaderBuild.Proofs.FileTree.Walking
import ShaderBuild.Proofs.FileTree.Growth
import ShaderBuild.Proofs.FileTree.Plain
import ShaderBuild.Proofs.FileTree.Writing
import ShaderBuild.Proofs.Path
import ShaderBuild.Proofs.Build.Effects
import ShaderBuild.Proofs.Build.Overwriting
import ShaderBuild.Proofs.FileTree.Passage
import ShaderBuild.Proofs.Build.Declared
import ShaderBuild.Proofs.Include.Context
import ShaderBuild.Proofs.Include.Reuse
import ShaderBuild.Proofs.Include.Lookups
import ShaderBuild.Proofs.Include.Trail
import ShaderBuild.Proofs.Include.FirstFault
import ShaderBuild.Proofs.Include.Stability
import ShaderBuild.Proofs.Include.Handed
import ShaderBuild.Proofs.Source.Splitting
import ShaderBuild.Proofs.FileTree.Passing
import ShaderBuild.Proofs.Include.Margins
import ShaderBuild.Proofs.FileTree.Changes
import ShaderBuild.Proofs.Build.Aside
import ShaderBuild.Proofs.Build.Order
import ShaderBuild.Proofs.Block.Std140
import ShaderBuild.Proofs.Block.Layout
import ShaderBuild.Proofs.Block.Overflow
import ShaderBuild.Proofs.Source.Newlines
import ShaderBuild.Proofs.Block.Stopping
import ShaderBuild.Proofs.Block.Grammar
import ShaderBuild.Proofs.Include.FilledPrefix
import ShaderBuild.Proofs.Include.InnerBlocks
import ShaderBuild.Proofs.FileName
import ShaderBuild.Proofs.Build.Outputs
import ShaderBuild.Proofs.PathOrder
import ShaderBuild.Proofs.FileTree.Names
import ShaderBuild.Proofs.Build.Sources
import ShaderBuild.Proofs.Build.Search
import ShaderBuild.Proofs.Include.LineForm
import ShaderBuild.Proofs.Include.Segments
import ShaderBuild.Proofs.CommandLine.Arguments
import ShaderBuild.Proofs.CommandLine.UniformTable
