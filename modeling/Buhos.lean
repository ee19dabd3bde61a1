import Buhos.Vfs.State
import Buhos.Vfs.Dentry
import Buhos.Vfs.DentryGet
import Buhos.Vfs.Vnode
import Buhos.Vfs.FsType
import Buhos.Vfs.Superblock
import Buhos.Vfs.Lookup
import Buhos.Vfs.Mount
import Buhos.Vfs.Refcount
import Buhos.Vfs.Run
import Buhos.Vfs.MountProtocol
import Buhos.Vfs.Eviction
import Buhos.Vfs.VnodeFrame
import Buhos.Vfs.SbRefs
import Buhos.Vfs.RootMount
import Buhos.Vfs.DentryCache
import Buhos.Vfs.TypeRegistry
import Buhos.Time.Sleep
import Buhos.Time.Rtc
