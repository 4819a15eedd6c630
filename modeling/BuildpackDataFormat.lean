import BuildpackDataFormat.Toml
import BuildpackDataFormat.Runtime
import BuildpackDataFormat.LayerMetadata
import BuildpackDataFormat.LayerMetadataProofs
import BuildpackDataFormat.Require
import BuildpackDataFormat.Plan
import BuildpackDataFormat.Launch
import BuildpackDataFormat.LaunchProofs
import BuildpackDataFormat.Disk
