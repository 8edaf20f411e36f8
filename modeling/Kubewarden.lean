import Kubewarden.Verify.Signatures
import Kubewarden.Verify.Checksum
import Kubewarden.Server.PrecompiledPolicy
import Kubewarden.Kube.Resource
import Kubewarden.Kube.Client
import Kubewarden.Kube.Cache
import Kubewarden.Kube.Reflectors
import Kubewarden.Kube.Memo
import Kubewarden.Rego.ContextAware
import Kubewarden.Rego.Bus
import Kubewarden.Fetcher.Sources
import Kubewarden.Fetcher.ClientConfig
import Kubewarden.Evaluator.Modes
import Kubewarden.Kwctl.Inspect
import Kubewarden.Kwctl.Policies
import Kubewarden.Burrego.Cli
