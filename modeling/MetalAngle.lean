import MetalAngle.Lib.LabelledRun
import MetalAngle.Lib.Fan
import MetalAngle.Lib.MruCache
import MetalAngle.Lib.ByteMemory
import MetalAngle.Lib.BitRange
import MetalAngle.Lib.Segments
import MetalAngle.Lib.SlotWrites
import MetalAngle.Lib.IntSpan
import MetalAngle.Lib.ClosedRange
import MetalAngle.Lib.StdHeap
import MetalAngle.Lib.StdSort
import MetalAngle.Lib.CheckedLoop
import MetalAngle.Lib.GridPacking
import MetalAngle.Lib.TokenStream
import MetalAngle.Lib.ControlFlow
import MetalAngle.Lib.BoundedCommands
import MetalAngle.Lib.DirtyBits
import MetalAngle.Lib.AlignedLayout
import MetalAngle.Lib.Observers
import MetalAngle.Lib.RankedGraph
import MetalAngle.Lib.Fallible
import MetalAngle.Metal.Utils
import MetalAngle.Metal.CommandQueue
import MetalAngle.Metal.CommandQueueSerials
import MetalAngle.Metal.CommandQueueWaiting
import MetalAngle.Metal.RenderCommandEncoder
import MetalAngle.Metal.RenderCommandEncoderEager
import MetalAngle.Metal.RenderCommandEncoderSlots
import MetalAngle.Metal.RenderPass
import MetalAngle.Metal.RenderPassContents
import MetalAngle.Metal.RequestedClears
import MetalAngle.Metal.EventSignals
import MetalAngle.Metal.OcclusionQuery
import MetalAngle.Metal.OcclusionQueryResults
import MetalAngle.Metal.OcclusionQueryPasses
import MetalAngle.Metal.OcclusionQueryStart
import MetalAngle.Metal.OcclusionQueryRuns
import MetalAngle.Metal.TriFanElements
import MetalAngle.Metal.LineLoopElements
import MetalAngle.Metal.InstanceEmulation
import MetalAngle.Metal.InstanceEmulationRuns
import MetalAngle.Metal.BufferConversions
import MetalAngle.Metal.Resources
import MetalAngle.Metal.BufferPool
import MetalAngle.Metal.BufferPoolRegions
import MetalAngle.Metal.BufferPoolReset
import MetalAngle.Metal.BufferPoolAccounting
import MetalAngle.Metal.BufferPoolRetention
import MetalAngle.Metal.Scissor
import MetalAngle.Metal.DepthRange
import MetalAngle.Metal.DepthStencilDesc
import MetalAngle.Metal.DepthStencilSync
import MetalAngle.Metal.DepthStencilRuns
import MetalAngle.Metal.VertexDescriptor
import MetalAngle.Metal.TriFanArrays
import MetalAngle.Metal.TriFanArraysCache
import MetalAngle.Metal.TriFanClientIndices
import MetalAngle.Metal.TriFanClientIndicesCache
import MetalAngle.Metal.BufferPoolFresh
import MetalAngle.Metal.ClientIndexArrayKey
import MetalAngle.Metal.IndexConversion
import MetalAngle.Metal.IndexConversionValues
import MetalAngle.Metal.IndexConversionCache
import MetalAngle.Gl.HandleRangeAllocator
import MetalAngle.Gl.HandleRangeAllocatorUsed
import MetalAngle.Gl.HandleAllocator
import MetalAngle.Gl.ResourceMap
import MetalAngle.Gl.ResourceMapIteration
import MetalAngle.Gl.IndexRangeCache
import MetalAngle.Gl.VaryingPacking
import MetalAngle.Gl.VaryingPackingSound
import MetalAngle.Gl.ResourceManager
import MetalAngle.Gl.VertexAttribute
import MetalAngle.Gl.VertexArray
import MetalAngle.Gl.VertexArrayWellFormed
import MetalAngle.Gl.BufferBindings
import MetalAngle.Gl.BindingChanges
import MetalAngle.Gl.BufferBindingsWellFormed
import MetalAngle.Gl.VertexArrayCaches
import MetalAngle.Gl.BufferBindingsCaches
import MetalAngle.Gl.ElementArrayRanges
import MetalAngle.Gl.BindingCounts
import MetalAngle.Gl.TransformFeedbackConflicts
import MetalAngle.Gl.DrawValidation
import MetalAngle.Gl.ElementLimits
import MetalAngle.Gl.IndexRangeSpans
import MetalAngle.Gl.DrawFetches
import MetalAngle.Gl.DrawBounds
import MetalAngle.Gl.TransformFeedback
import MetalAngle.Gl.TransformFeedbackCapture
import MetalAngle.Gl.UniformBuffers
import MetalAngle.Gl.SamplerState
import MetalAngle.Gl.Texture
import MetalAngle.Gl.TextureOperations
import MetalAngle.Gl.TextureCaches
import MetalAngle.Gl.TextureCacheRuns
import MetalAngle.Gl.TextureImages
import MetalAngle.Gl.MipmapCompleteness
import MetalAngle.Gl.TextureAtomicity
import MetalAngle.Gl.TextureInitState
import MetalAngle.Gl.Framebuffer
import MetalAngle.Gl.FramebufferInit
import MetalAngle.Gl.InternalFormats
import MetalAngle.Lib.CheckedNumeric
import MetalAngle.Gl.PixelStore
import MetalAngle.Gl.DebugMessages
import MetalAngle.Renderer.PackPixels
import MetalAngle.Gl.FramebufferAttachments
import MetalAngle.Gl.DrawBufferMasks
import MetalAngle.Gl.ActiveSamplers
import MetalAngle.Gl.SamplerLinks
import MetalAngle.Gl.SamplerRelinks
import MetalAngle.Gl.ActiveTextures
import MetalAngle.Gl.ActiveTextureRuns
import MetalAngle.Gl.ProgramRelink
import MetalAngle.Gl.Rectangle
import MetalAngle.Gl.ResourceNames
import MetalAngle.Gl.TransformFeedbackLinking
import MetalAngle.Gl.ProgramBindings
import MetalAngle.Gl.ProgramCacheKey
import MetalAngle.Gl.BinaryStream
import MetalAngle.Gl.SizedMRUCache
import MetalAngle.Gl.UniformLocations
import MetalAngle.Gl.ProgramState
import MetalAngle.Gl.ValueTypes
import MetalAngle.Gl.UniformClamping
import MetalAngle.Gl.AttributeLocations
import MetalAngle.Gl.AttributeMasks
import MetalAngle.Gl.ProgramSerialization
import MetalAngle.Gl.ProgramLink
import MetalAngle.Gl.ProgramReload
import MetalAngle.Preprocessor.Input
import MetalAngle.Preprocessor.InputLossless
import MetalAngle.Preprocessor.ExpressionParser
import MetalAngle.Preprocessor.DirectiveParser
import MetalAngle.Translator.InsertionQueue
import MetalAngle.Translator.IntermTraverse
import MetalAngle.Translator.CallDag
import MetalAngle.Translator.CallDagGraph
import MetalAngle.Translator.CallDagOrder
import MetalAngle.Translator.CallDagRecords
import MetalAngle.Translator.FunctionPruning
import MetalAngle.Translator.RemoveSwitchFallThrough
import MetalAngle.Translator.VariablePacker
import MetalAngle.Translator.VariablePackerSearch
import MetalAngle.Translator.VariablePackerPhases
import MetalAngle.Translator.VariablePackerSound
import MetalAngle.Translator.VariablePackerLimits
import MetalAngle.Translator.VariablePackerGaps
import MetalAngle.Translator.RecordedInsertions
import MetalAngle.Translator.Statement
import MetalAngle.Translator.ValidateSwitch
import MetalAngle.Translator.PruneEmptyCases
import MetalAngle.Translator.SimplifyLoopConditions
import MetalAngle.Translator.RewriteDoWhile
import MetalAngle.Translator.DeepCopy
import MetalAngle.Translator.ComponentFolding
import MetalAngle.Translator.ConstantArithmetic
import MetalAngle.Translator.BitfieldFolding
import MetalAngle.Translator.MatrixFolding
import MetalAngle.Translator.ShaderVariable
import MetalAngle.Translator.BlockLayout
import MetalAngle.Translator.BlockLayoutRules
import MetalAngle.Translator.BlockLayoutSound
