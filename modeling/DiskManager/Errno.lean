import DiskManager.Text

/-!
# Result codes

`DiskManagerErrNo`: the `int32_t` results of the service and of its calls to storage_daemon.
-/

namespace DiskManager

abbrev ErrCode : Type := Int

abbrev E_OK : ErrCode := 0
abbrev DISK_MGR_ERR : ErrCode := -1

abbrev E_REMOTE_IS_NULLPTR : ErrCode := 11
abbrev E_DISK_NOT_FOUND : ErrCode := 20
abbrev E_VOLUME_NOT_FOUND : ErrCode := 21
abbrev E_UEVENT_PARSE_FAILED : ErrCode := 22
abbrev E_DISK_HAS_EXIST : ErrCode := 24
abbrev E_DESTROY_DEVICE_NODE : ErrCode := 25
abbrev E_STORAGE_VALID_NODE : ErrCode := 26
abbrev E_SA_IS_UNLOADING : ErrCode := 27

abbrev E_PERMISSION_DENIED : ErrCode := 13600001
abbrev E_PARAMS_INVALID : ErrCode := 13600002
abbrev E_NON_EXIST : ErrCode := 13600004
abbrev E_NOT_SUPPORT : ErrCode := 13600007
abbrev E_SYS_APP_PERMISSION_DENIED : ErrCode := 13600025
abbrev E_STATVFS : ErrCode := 13601204

abbrev E_VOL_STATE : ErrCode := 13601701
abbrev E_VOL_MOUNT_ERR : ErrCode := 13601702
abbrev E_VOL_UMOUNT_ERR : ErrCode := 13601703
abbrev E_UMOUNT_BUSY : ErrCode := 13601704
abbrev E_VOL_NEED_FIX : ErrCode := 13601730
abbrev E_GET_PARTITION_ERROR : ErrCode := 13601739
abbrev E_CREATE_PARTITION_NOT_SUPPORT : ErrCode := 13601740
abbrev E_CREATE_PARTITION_ERROR : ErrCode := 13601742
abbrev E_DELETE_PARTITION_NOT_SUPPORT : ErrCode := 13601743
abbrev E_DELETE_PARTITION_ERROR : ErrCode := 13601745
abbrev E_FORMAT_PARTITION_NOT_SUPPORT : ErrCode := 13601748
abbrev E_FORMAT_PARTITION_ERROR : ErrCode := 13601750
abbrev E_QUERY_VOLUME_IN_USE_ERROR : ErrCode := 13601751

abbrev E_EMPTY_DISC : ErrCode := 13601801
abbrev E_ISO_WRITE_FAILED : ErrCode := 13601802
abbrev E_ERASE_FAILED : ErrCode := 13601803
abbrev E_EJECT_FAILED : ErrCode := 13601804
abbrev E_BURN_FAILED : ErrCode := 13601805
abbrev E_BURN_NOSPC : ErrCode := 13601806

abbrev E_BIND_LOOP_DEV_FAILED : ErrCode := 13601901
abbrev E_CREATE_DM_CRYPT_VOLUME_FAILED : ErrCode := 13601902
abbrev E_DESTROY_DM_CRYPT_VOLUME_FAILED : ErrCode := 13601903
abbrev E_UNBIND_LOOP_DEV_FAILED : ErrCode := 13601904
abbrev E_MOUNT_VOL_BY_PATH_FAILED : ErrCode := 13601905
abbrev E_UMOUNT_VOL_BY_PATH_FAILED : ErrCode := 13601906
abbrev E_BUSY : ErrCode := 13601907

end DiskManager
